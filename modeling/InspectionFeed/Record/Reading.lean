/-
Reading records from lines, one JSON table a line. Blank lines are skipped
and counted. Reading stops at the first line that is no record, and its
number stands in front of the complaint; only a whole number with too many
digits and values nested too deep are reported without a number, by the reader
of JSON itself.
-/
import InspectionFeed.Json.Reader
import InspectionFeed.Record.Basic
import InspectionFeed.Text.Blank

namespace InspectionFeed

/-- What is wrong with a line. -/
inductive LineFault
  | malformed (mistake : Json.Mistake)
  | notTable
  | record (fault : Record.Fault)
  deriving Repr, DecidableEq

/-- The wording of a line's fault, without its number. -/
def LineFault.message : LineFault → String
  | .malformed m => "invalid JSON: " ++ m.message
  | .notTable => "record must be a JSON object"
  | .record f => f.message

/-- Why reading stopped. -/
inductive ReadFault
  /-- A line, counted from 1, is no record. -/
  | line (number : Nat) (fault : LineFault)
  | longNumber (digits : Nat)
  | tooDeep (nesting : Json.Nesting)
  deriving Repr, DecidableEq

/-- The wording of the reason. -/
def ReadFault.message : ReadFault → String
  | .line n f => "line " ++ toString n ++ ": " ++ f.message
  | .longNumber digits => (Text.NumeralFault.tooLong digits).message
  | .tooDeep nesting => nesting.tooDeepMessage

namespace Record

/-- The record of a line that is not blank and has this number. -/
def ofLine (number : Nat) (line : String) : Logged ReadFault Record :=
  match Json.read line with
  | .error (.longNumber digits) => .fail (.longNumber digits)
  | .error (.tooDeep nesting) => .fail (.tooDeep nesting)
  | .error (.malformed m) => .fail (.line number (.malformed m))
  | .ok (.dict t) => (ofTable t).mapError fun f => .line number (.record f)
  | .ok _ => .fail (.line number .notTable)

end Record

/-- How far lines were read. -/
structure Reading where
  next : Nat
  /-- The records, newest first. -/
  read : List Record
  /-- The log lines, newest first. -/
  logged : List Log.Event
  stop : Option ReadFault
  deriving Repr

namespace Reading

/-- Before the first line. -/
def start : Reading := ⟨1, [], [], none⟩

/-- Reads one more line, unless reading has stopped. -/
def push : Reading → String → Reading
  | ⟨next, read, logged, some stop⟩, _ => ⟨next, read, logged, some stop⟩
  | ⟨next, read, logged, none⟩, line =>
    if Text.isBlankText line then ⟨next + 1, read, logged, none⟩
    else match Record.ofLine next line with
      | ⟨events, .ok record⟩ => ⟨next + 1, record :: read, events.reverse ++ logged, none⟩
      | ⟨events, .error fault⟩ => ⟨next, read, events.reverse ++ logged, some fault⟩

/-- Reads lines in order. -/
def ofLines (lines : List String) : Reading := lines.foldl push start

/-- The records, in order. -/
def records (r : Reading) : List Record := r.read.reverse

/-- The log lines, in order. -/
def events (r : Reading) : List Log.Event := r.logged.reverse

end Reading

end InspectionFeed
