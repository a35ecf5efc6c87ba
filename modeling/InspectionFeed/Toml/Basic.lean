/-
What all readers of TOML share: the characters of a line and what may stand
between its words. Each reader takes the characters from its first on and
gives the characters behind what it read, or nothing where the document is
wrong.
-/

namespace InspectionFeed.Toml

/-- The editions of the format. -/
inductive Edition
  | v10
  /-- Version 1.1: more escapes, and times without seconds. -/
  | v11
  deriving Repr, DecidableEq

/-- The name of an entry or a table: words with points between them. -/
structure Key where
  first : String
  more : List String
  deriving Repr, DecidableEq

/-- All words of a key. -/
def Key.parts (k : Key) : List String := k.first :: k.more

/-- White space inside a line. -/
def isSpace (c : Char) : Bool := c == ' ' || c == '\t'

/-- The characters after white space. -/
def skipSpace (cs : List Char) : List Char := cs.dropWhile isSpace

/-- A control character other than the tab. -/
def isControl (c : Char) : Bool := (c.toNat < 32 && c != '\t') || c.toNat == 127

/-- A character of a key without quotes. -/
def isKeyChar (c : Char) : Bool := c.isAlphanum || c == '_' || c == '-'

/-- The characters after one that must come. -/
def expect? (c : Char) : List Char → Option (List Char)
  | d :: cs => if d = c then some cs else none
  | [] => none

/-- A comment up to the end of its line, if there is one. -/
def skipComment? (cs : List Char) : Option (List Char) :=
  match cs with
  | '#' :: rest =>
    if (rest.takeWhile (· != '\n')).any isControl then none
    else some (rest.dropWhile (· != '\n'))
  | _ => some cs

/-- Skips white space, comments and ends of lines; `inComment` says that a comment is under way. -/
def skipGapsFrom? : Bool → List Char → Option (List Char)
  | _, [] => some []
  | true, c :: cs =>
    if c == '\n' then skipGapsFrom? false cs
    else if isControl c then none
    else skipGapsFrom? true cs
  | false, c :: cs =>
    if c == '#' then skipGapsFrom? true cs
    else if isSpace c || c == '\n' then skipGapsFrom? false cs
    else some (c :: cs)

/-- Skips what may stand between the items of a list. -/
def skipGaps? (cs : List Char) : Option (List Char) := skipGapsFrom? false cs

/-- The end of a line, after an entry or a header. -/
def lineEnd? (cs : List Char) : Option (List Char) := do
  match ← skipComment? (skipSpace cs) with
  | [] => some []
  | '\n' :: rest => some rest
  | _ => none

end InspectionFeed.Toml
