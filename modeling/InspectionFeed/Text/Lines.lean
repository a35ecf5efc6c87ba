/-
Lines of a text. A line ends with a line feed, a carriage return, or the two
together; each of these becomes one line feed, kept as the last character of
its line. A last line without an end is a line, unless it is empty.

When the rest of an input cannot be read, only the lines whose end is known
count: a carriage return that is the last character may be half of an end.
-/

namespace InspectionFeed.Text

/-- Lines read so far, newest first, and the line under way, last character first. -/
structure LineSplit where
  done : List String
  current : List Char
  heldReturn : Bool
  deriving Repr

/-- Nothing read. -/
def LineSplit.start : LineSplit := ⟨[], [], false⟩

/-- Ends the line under way. -/
def LineSplit.close (s : LineSplit) : LineSplit :=
  ⟨.ofList ('\n' :: s.current).reverse :: s.done, [], false⟩

/-- Reads one character. -/
def LineSplit.push (s : LineSplit) (c : Char) : LineSplit :=
  if s.heldReturn && c == '\n' then s.close
  else
    let s := if s.heldReturn then s.close else s
    if c == '\r' then { s with heldReturn := true }
    else if c == '\n' then s.close
    else { s with current := c :: s.current }

/-- The lines when no more characters come. -/
def LineSplit.finish (s : LineSplit) : List String :=
  let s := if s.heldReturn then s.close else s
  (if s.current.isEmpty then s.done else .ofList s.current.reverse :: s.done).reverse

def linesOf (cs : List Char) : List String :=
  (cs.foldl LineSplit.push .start).finish

/-- The lines of a text whose ends are known although the rest of the input is not. -/
def endedLinesOf (cs : List Char) : List String :=
  (cs.foldl LineSplit.push .start).done.reverse

/-- The text with every end of line written as a line feed. -/
def unifyLineEnds (cs : List Char) : List Char :=
  (linesOf cs).flatMap String.toList

end InspectionFeed.Text
