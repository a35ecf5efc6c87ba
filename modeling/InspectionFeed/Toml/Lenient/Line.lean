/-
The lines of a TOML document in the lenient reading: entries and headers in
the order in which they stand, up to the end of the document or to the first
place where it cannot be read. What the lines say together is not asked here.

Lists and tables in braces may run over several lines and end with a comma.
A list that has reached its closing bracket is complete, even if what stands
right before the bracket is no item but only the beginning of one.
-/
import InspectionFeed.Toml.Lenient.Body
import InspectionFeed.Toml.Lenient.Moment
import InspectionFeed.Toml.Lenient.Number
import InspectionFeed.Toml.Strings

namespace InspectionFeed.Toml.Lenient

/-! ## Keys -/

/-- The most words a key may have. -/
def wordLimit : Nat := 100

/-- A word without quotes. White space around it is dropped; inside it only tabs may stand. -/
def bareWord (cs : List Char) : Except Stop (String × List Char) :=
  let taken := (skipSpace cs).takeWhile fun c => isKeyChar c || isSpace c
  let word := (taken.reverse.dropWhile isSpace).reverse
  if word.isEmpty || word.contains ' ' then .error (.fault .malformed)
  else .ok (.ofList word, (skipSpace cs).dropWhile fun c => isKeyChar c || isSpace c)

/-- A word in quotes, after the first of them. A string over several lines is no word. -/
def quotedWord (quote : Char) (cs : List Char) : Except Stop (String × List Char) :=
  match afterTwo? quote cs with
  | some rest => do
    let (_, rest) ← orMalformed (blockString? .v11 quote rest)
    .error (.stuck rest)
  | none => do
    let (word, rest) ← orMalformed (lineString? .v11 quote cs)
    return (word, skipSpace rest)

/-- A word of a key, with the white space around it. -/
def word (cs : List Char) : Except Stop (String × List Char) :=
  match skipSpace cs with
  | '"' :: rest => quotedWord '"' rest
  | '\'' :: rest => quotedWord '\'' rest
  | rest => bareWord rest

/-- The words of a key from its second on, at most so many. -/
def moreWords : Nat → List Char → Except Stop (List String × List Char)
  | 0, '.' :: _ => .error (.fault .malformed)
  | room + 1, '.' :: cs => do
    let (first, rest) ← word cs
    let (more, rest) ← moreWords room rest
    return (first :: more, rest)
  | _, cs => .ok ([], cs)

def key (cs : List Char) : Except Stop (Key × List Char) := do
  let (first, rest) ← word cs
  let (more, rest) ← moreWords (wordLimit - 1) rest
  return (⟨first, more⟩, rest)

/-! ## Values -/

/-- A character that ends a word. -/
def endsWord (c : Char) : Bool :=
  isSpace c || c == '\n' || c == '#' || c == ',' || c == ']' || c == '\x7d'

/-- The word is that of a number, a date or a time: it starts with a sign or a digit, or is the
name of no finite number. -/
def isQuantity (cs : List Char) : Bool :=
  match cs with
  | c :: _ => c == '+' || c == '-' || c.isDigit || cs == "inf".toList || cs == "nan".toList
  | [] => false

/-- A day has been read. What follows it, after a space and up to a character that ends a word
and is no space, must be a time; blanks do not count. -/
def afterDate (d : Date) (written rest : List Char) : Except Stop (Value × List Char) :=
  let tail := rest.takeWhile fun c => c == ' ' || !endsWord c
  let rest := rest.dropWhile fun c => c == ' ' || !endsWord c
  match Text.trimEndChars tail with
  | [] => .ok (.date d, rest)
  | tail =>
    match moment? (written ++ tail) with
    | some v => .ok (v, rest)
    | none => .error (.fault .malformed)

/-- A number, a date or a time. -/
def quantity (cs : List Char) : Except Stop (Value × List Char) :=
  let word := cs.takeWhile (!endsWord ·)
  let rest := cs.dropWhile (!endsWord ·)
  if !isQuantity word then .error (.stuck cs)
  else match moment? word with
    | some (.date d) => afterDate d word rest
    | some v => .ok (v, rest)
    | none => (orMalformed (number? word)).map (·, rest)

/-- How deep lists and tables in braces may be nested. -/
def nestingLimit : Nat := 100

mutual

/-- A value, with room for so many levels of nesting. Each value, item and entry takes one unit
of fuel; a document has no more of them than characters. -/
def value : Nat → Nat → List Char → Except Stop (Value × List Char)
  | 0, _, _ => .error (.fault .malformed)
  | fuel + 1, room, cs =>
    match cs, room with
    | '"' :: rest, _ => (orMalformed (string? .v11 '"' rest)).map fun (s, rest) => (.str s, rest)
    | '\'' :: rest, _ => (orMalformed (string? .v11 '\'' rest)).map fun (s, rest) => (.str s, rest)
    | 't' :: 'r' :: 'u' :: 'e' :: rest, _ => .ok (.bool true, rest)
    | 'f' :: 'a' :: 'l' :: 's' :: 'e' :: rest, _ => .ok (.bool false, rest)
    | '[' :: rest, room + 1 => items fuel room [] rest
    | '\x7b' :: rest, room + 1 => braced fuel room [] rest
    | '[' :: _, 0 => .error (.fault .malformed)
    | '\x7b' :: _, 0 => .error (.fault .malformed)
    | cs, _ => quantity cs

/-- The items of a list up to its end; those before are in reverse. -/
def items : Nat → Nat → List Value → List Char → Except Stop (Value × List Char)
  | 0, _, _, _ => .error (.fault .malformed)
  | fuel + 1, room, read, cs => do
    match value fuel room (← orMalformed (skipGaps? cs)) with
    | .error (.stuck (']' :: rest)) => .ok (.list read.reverse, rest)
    | .error stop => .error stop
    | .ok (v, rest) =>
      match ← orMalformed (skipGaps? rest) with
      | ',' :: rest => items fuel room (v :: read) rest
      | ']' :: rest => .ok (.list (v :: read).reverse, rest)
      | rest => .error (.stuck rest)

/-- The entries of a table in braces up to its end. -/
def braced : Nat → Nat → Body → List Char → Except Stop (Value × List Char)
  | 0, _, _, _ => .error (.fault .malformed)
  | fuel + 1, room, b, cs => do
    match ← orMalformed (skipGaps? cs) with
    | '\x7d' :: rest => return (.dict (← (tableOf b).mapError .fault), rest)
    | cs =>
      let (k, rest) ← key cs
      match rest with
      | '=' :: rest =>
        let (v, rest) ← value fuel room (skipSpace rest)
        let b ← (write k v b).mapError .fault
        match ← orMalformed (skipGaps? rest) with
        | ',' :: rest => braced fuel room b rest
        | '\x7d' :: rest => return (.dict (← (tableOf b).mapError .fault), rest)
        | rest => .error (.stuck rest)
      | rest => .error (.stuck rest)

end

/-! ## Lines -/

/-- A line that says something. -/
inductive Line
  /-- A header; `element` says that it has two brackets. -/
  | header (element : Bool) (key : Key)
  | entry (key : Key) (v : Value)

/-- The lines of a document up to where it ends or cannot be read on. -/
structure Lines where
  lines : List Line
  /-- Why reading stops after them, if the document goes on. -/
  fault : Option Fault

/-- No lines, for a reason. -/
def Lines.stop (s : Stop) : Lines := ⟨[], some s.reason⟩

/-- One more line in front. -/
def Lines.cons (line : Line) (s : Lines) : Lines := { s with lines := line :: s.lines }

/-- An entry up to the end of its line. -/
def entry (cs : List Char) : Except Stop (Line × List Char) := do
  let (k, rest) ← key cs
  match rest with
  | '=' :: rest =>
    let (v, rest) ← value (rest.length + 1) nestingLimit (skipSpace rest)
    return (.entry k v, ← orMalformed (lineEnd? rest))
  | rest => .error (.stuck rest)

/-- What is behind the key of a header. The second bracket of two may be any character. -/
def headerEnd? (element : Bool) (cs : List Char) : Option (List Char) := do
  let rest ← expect? ']' cs
  lineEnd? (if element then rest.drop 1 else rest)

/-- The second bracket of a header, if there is one. -/
def secondBracket : List Char → Bool × List Char
  | '[' :: cs => (true, cs)
  | cs => (false, cs)

/-- The lines of a text, at most `fuel` of them. A header counts as soon as its key is read. -/
def linesWithin : Nat → List Char → Lines
  | 0, _ => .stop (.fault .malformed)
  | fuel + 1, cs =>
    match skipSpace cs with
    | [] => ⟨[], none⟩
    | '\n' :: rest => linesWithin fuel rest
    | '#' :: rest =>
      match lineEnd? ('#' :: rest) with
      | some rest => linesWithin fuel rest
      | none => .stop (.fault .malformed)
    | '[' :: rest =>
      let (element, rest) := secondBracket rest
      match key rest with
      | .error stop => .stop stop
      | .ok (k, rest) => .cons (.header element k) <|
        match headerEnd? element rest with
        | some rest => linesWithin fuel rest
        | none => .stop (.fault .malformed)
    | cs =>
      match entry cs with
      | .error stop => .stop stop
      | .ok (line, rest) => .cons line (linesWithin fuel rest)

/-- The lines of a text. -/
def linesOf (cs : List Char) : Lines := linesWithin (cs.length + 1) cs

end InspectionFeed.Toml.Lenient
