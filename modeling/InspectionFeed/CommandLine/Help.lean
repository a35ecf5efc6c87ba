/-
The text of help: a usage line, the explanation, and the options and commands
in two columns. Lines are filled word by word up to a width, and the second
column starts where the longest name ends, or below the name if the name is
too long for the first column.
-/
import InspectionFeed.CommandLine.Topic

namespace InspectionFeed.CommandLine

/-! ## Filling lines -/

def lineWidth : Nat := 80

/-- How far text is indented. -/
def indent : Nat := 2

/-- The widest first column. -/
def columnLimit : Nat := 30

/-- The space between columns. -/
def columnGap : Nat := 2

def blanks (n : Nat) : String := .ofList (List.replicate n ' ')

/-- Fills lines with words, the first line having a beginning. -/
def fillFrom (width : Nat) (line : String) : List String → List String
  | [] => [line]
  | word :: words =>
    if line.length + 1 + word.length ≤ width then fillFrom width (line ++ " " ++ word) words
    else line :: fillFrom width word words

/-- The words of an explanation in lines of a width. -/
def fill (width : Nat) (text : String) : List String :=
  match text.splitOn " " with
  | [] => []
  | word :: words => fillFrom width word words

/-- As many words as a width holds. -/
def takeWords (width : Nat) (line : String) : List String → String
  | [] => line
  | word :: words =>
    if line.length + 1 + word.length ≤ width then takeWords width (line ++ " " ++ word) words
    else line

/-- An explanation cut to a width, with dots for what is cut off. -/
def shorten (width : Nat) (text : String) : String :=
  if text.length ≤ width then text
  else match text.splitOn " " with
    | [] => "..."
    | word :: words => takeWords (width - 3) word words ++ "..."

/-! ## Columns -/

/-- One row: the name and its explanation beside it, or below it where the name is too long. -/
def rowLines (column : Nat) (row : String × String) : List String :=
  match fill (lineWidth - column - columnGap) row.2 with
  | [] => [blanks indent ++ row.1]
  | line :: lines =>
    let below := blanks (column + indent)
    let top :=
      if row.1.length + columnGap ≤ column then
        [blanks indent ++ row.1 ++ blanks (column - row.1.length) ++ line]
      else [blanks indent ++ row.1, below ++ line]
    top ++ lines.map (below ++ ·)

/-- Rows under a heading. -/
def tableLines (heading : String) (rows : List (String × String)) : List String :=
  let widest := rows.foldl (fun n row => max n row.1.length) 0
  heading :: rows.flatMap (rowLines (min widest columnLimit + columnGap))

/-! ## Help -/

/-- How one option is shown. -/
def Switch.shown : Switch Use → String
  | .flag long (some short) _ => "-" ++ short.toString ++ ", " ++ long
  | .flag long none _ => long
  | .value long _ => long

/-- How options that are explained together are shown. -/
def Entry.shown (e : Entry) : String :=
  " / ".intercalate (e.switches.map Switch.shown) ++
    match e.placeholder with
    | some p => " " ++ p
    | none => ""

def Topic.usage (t : Topic) (program : String) : String :=
  "Usage: " ++ " ".intercalate (t.path program :: t.placeholders)

def Command.row (c : Command) : String × String :=
  let widest := Command.all.foldl (fun n c => max n c.name.length) 0
  (c.name, shorten (lineWidth - 6 - widest) (Topic.command c).text)

def Topic.commandLines : Topic → List String
  | .program => "" :: tableLines "Commands:" (Command.all.map Command.row)
  | .command _ => []

def Topic.helpLines (t : Topic) (program : String) : List String :=
  [t.usage program, ""] ++ (fill (lineWidth - indent) t.text).map (blanks indent ++ ·) ++
    [""] ++ tableLines "Options:" (t.entries.map fun e => (e.shown, e.text)) ++ t.commandLines

/-- The text of help on a topic. -/
def Topic.help (t : Topic) (program : String) : String :=
  "\n".intercalate (t.helpLines program)

end InspectionFeed.CommandLine
