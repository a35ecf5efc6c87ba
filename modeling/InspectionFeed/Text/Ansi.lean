/-
Terminal control sequences: an escape character, an opening bracket, any
number of parameter characters, any number of intermediate characters, and a
final one. Text meant for a terminal carries them for colour; text for a pipe
has them removed. A sequence without its end is left alone.
-/

namespace InspectionFeed.Text

/-- A parameter of a control sequence: a digit or one of `:;<=>?`. -/
def isAnsiParameter (c : Char) : Bool := '0' ≤ c && c ≤ '?'

/-- A character between the parameters of a control sequence and its end: the space or one of
the marks up to the slash. -/
def isAnsiIntermediate (c : Char) : Bool := ' ' ≤ c && c ≤ '/'

/-- A character that ends a control sequence. -/
def isAnsiFinal (c : Char) : Bool := '@' ≤ c && c ≤ '~'

/-- What follows the control sequence a text begins with, if it begins with one. -/
def afterAnsi? : List Char → Option (List Char)
  | '\x1b' :: '[' :: cs =>
    match (cs.dropWhile isAnsiParameter).dropWhile isAnsiIntermediate with
    | c :: rest => if isAnsiFinal c then some rest else none
    | [] => none
  | _ => none

/-- Removes the control sequences of the first `fuel` items. -/
def stripAnsiChars : Nat → List Char → List Char
  | 0, cs => cs
  | _ + 1, [] => []
  | fuel + 1, c :: cs =>
    match afterAnsi? (c :: cs) with
    | some rest => stripAnsiChars fuel rest
    | none => c :: stripAnsiChars fuel cs

/-- A text without its control sequences. -/
def stripAnsi (s : String) : String :=
  .ofList (stripAnsiChars s.length s.toList)

end InspectionFeed.Text
