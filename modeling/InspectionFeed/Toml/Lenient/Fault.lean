/-
What can be wrong with a document in the lenient reading.

Most faults only say that the text is no document. A key that stands twice
where one entry is all there can be is named, and so is the header of a table
that dotted keys have made; the document around the two may be in order.
-/
import InspectionFeed.Toml.Basic

namespace InspectionFeed.Toml.Lenient

/-- Why a text is no document. -/
inductive Fault
  | malformed
  | repeated (key : String)
  /-- A table that dotted keys have made gets a header. -/
  | redefined
  deriving Repr, DecidableEq

/-- Why reading stops inside a line. A list under way may go on where a character cannot stand,
but not after any other fault. -/
inductive Stop
  /-- The character that comes next, if any, cannot stand there. -/
  | stuck (rest : List Char)
  | fault (f : Fault)
  deriving Repr, DecidableEq

/-- The fault for which reading stops. -/
def Stop.reason : Stop → Fault
  | .stuck _ => .malformed
  | .fault f => f

/-- A part of a text that is malformed where it cannot be read. -/
def orMalformed {α : Type} : Option α → Except Stop α
  | some a => .ok a
  | none => .error (.fault .malformed)

end InspectionFeed.Toml.Lenient
