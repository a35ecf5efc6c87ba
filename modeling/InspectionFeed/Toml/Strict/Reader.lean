/-
The strict reading of a TOML document, by version 1.0 of the format, from
text whose line ends are line feeds.

A document is a sequence of lines: an entry, a header, a comment or nothing.
A list and a string in three quotes may run over several lines. What a
document says twice, or says of something that is final, makes it wrong; why
it is wrong is not told.

Lists and tables in braces may be nested as deep as the stack has room for.
The room is counted in calls, and how much of it a document finds depends on
where the reading is asked for.
-/
import InspectionFeed.Toml.Strict.Scalar
import InspectionFeed.Toml.Strict.Tree
import InspectionFeed.Toml.Strings

namespace InspectionFeed.Toml.Strict

def keyPart? (cs : List Char) : Option (String × List Char) :=
  match cs with
  | '"' :: rest => lineString? .v10 '"' rest
  | '\'' :: rest => lineString? .v10 '\'' rest
  | _ =>
    let part := cs.takeWhile isKeyChar
    if part.isEmpty then none else some (.ofList part, cs.dropWhile isKeyChar)

/-- The parts of a key after its first, at most `fuel` of them. White space may stand around
the points. -/
def moreKeyParts? : Nat → List Char → Option (List String × List Char)
  | 0, _ => none
  | fuel + 1, cs =>
    match skipSpace cs with
    | '.' :: rest => do
      let (part, rest) ← keyPart? (skipSpace rest)
      let (parts, rest) ← moreKeyParts? fuel rest
      return (part :: parts, rest)
    | rest => some ([], rest)

/-- A key: its first part and the others. The white space behind it is taken as well. -/
def key? (cs : List Char) : Option (Key × List Char) := do
  let (part, rest) ← keyPart? cs
  let (parts, rest) ← moreKeyParts? (rest.length + 1) rest
  return (⟨part, parts⟩, rest)

/-- Why a text is not read. -/
inductive Fault
  | malformed
  /-- It is nested deeper than there is room for. -/
  | tooDeep
  deriving Repr, DecidableEq

/-- A part of a text that is malformed where it cannot be read. -/
def orMalformed {α : Type} : Option α → Except Fault α
  | some a => .ok a
  | none => .error .malformed

/-- The calls from a list to its items. -/
def listCalls : Nat := 2

/-- The calls from a table in braces to its values. -/
def tableCalls : Nat := 3

mutual

/-- A value, with room for so many calls. Each value, item and entry takes one unit of fuel; a
document has no more of them than characters. -/
def value : Nat → Nat → List Char → Except Fault (Value × List Char)
  | 0, _, _ => .error .malformed
  | fuel + 1, room, cs =>
    match cs with
    | '"' :: rest => (orMalformed (string? .v10 '"' rest)).map fun (s, rest) => (.str s, rest)
    | '\'' :: rest => (orMalformed (string? .v10 '\'' rest)).map fun (s, rest) => (.str s, rest)
    | 't' :: 'r' :: 'u' :: 'e' :: rest => .ok (.bool true, rest)
    | 'f' :: 'a' :: 'l' :: 's' :: 'e' :: rest => .ok (.bool false, rest)
    | '[' :: rest =>
      if room < listCalls then .error .tooDeep else items fuel (room - listCalls) [] rest
    | '\x7b' :: rest =>
      if room < tableCalls then .error .tooDeep
      else match skipSpace rest with
        | '\x7d' :: rest => .ok (.dict [], rest)
        | rest => inlineEntries fuel (room - tableCalls) [] rest
    | _ => orMalformed (quantity? cs)

/-- The items of a list up to its end; those before are in reverse. -/
def items : Nat → Nat → List Value → List Char → Except Fault (Value × List Char)
  | 0, _, _, _ => .error .malformed
  | fuel + 1, room, read, cs => do
    match ← orMalformed (skipGaps? cs) with
    | ']' :: rest => .ok (.list read.reverse, rest)
    | cs =>
      let (v, rest) ← value fuel room cs
      match ← orMalformed (skipGaps? rest) with
      | ',' :: rest => items fuel room (v :: read) rest
      | ']' :: rest => .ok (.list (v :: read).reverse, rest)
      | _ => .error .malformed

/-- The entries of a table on one line, from a key on. -/
def inlineEntries : Nat → Nat → Entries → List Char → Except Fault (Value × List Char)
  | 0, _, _, _ => .error .malformed
  | fuel + 1, room, es, cs => do
    let (⟨key, more⟩, rest) ← orMalformed (key? cs)
    let rest ← orMalformed (expect? '=' rest)
    let (v, rest) ← value fuel room (skipSpace rest)
    let es ← orMalformed (assign? key more v es)
    match skipSpace rest with
    | ',' :: rest => inlineEntries fuel room es (skipSpace rest)
    | '\x7d' :: rest => .ok (.dict (entryValues es), rest)
    | _ => .error .malformed

end

/-- A document under construction: the path of the last header, and all entries. -/
structure Draft where
  path : List String
  entries : Entries

/-- The parts of a path but its last, and the last. -/
def splitLast (first : String) : List String → List String × String
  | [] => ([], first)
  | next :: more =>
    let (parents, last) := splitLast next more
    (first :: parents, last)

/-- A header, after its opening brackets; `element` says that there are two. -/
def header? (element : Bool) (cs : List Char) (d : Draft) : Option (Draft × List Char) := do
  let (⟨first, more⟩, rest) ← key? (skipSpace cs)
  let rest ← expect? ']' rest
  let rest ← if element then expect? ']' rest else some rest
  let (parents, last) := splitLast first more
  let entries ← (if element then openElement? else openTable?) parents last d.entries
  return (⟨first :: more, entries⟩, ← lineEnd? rest)

/-- An entry with its line end. -/
def entry (room : Nat) (cs : List Char) (d : Draft) : Except Fault (Draft × List Char) := do
  let (⟨key, more⟩, rest) ← orMalformed (key? cs)
  let rest ← orMalformed (expect? '=' rest)
  let (v, rest) ← value (rest.length + 1) room (skipSpace rest)
  let entries ← orMalformed (below? d.path (assign? key more v) d.entries)
  return ({ d with entries := entries }, ← orMalformed (lineEnd? rest))

/-- The lines of a document, at most `fuel` of them. -/
def document (room : Nat) : Nat → Draft → List Char → Except Fault Draft
  | 0, _, _ => .error .malformed
  | fuel + 1, d, cs =>
    match skipSpace cs with
    | [] => .ok d
    | '\n' :: rest => document room fuel d rest
    | '#' :: rest => do document room fuel d (← orMalformed (lineEnd? ('#' :: rest)))
    | '[' :: '[' :: rest => do
      let (d, rest) ← orMalformed (header? true rest d)
      document room fuel d rest
    | '[' :: rest => do
      let (d, rest) ← orMalformed (header? false rest d)
      document room fuel d rest
    | cs => do
      let (d, rest) ← entry room cs d
      document room fuel d rest

/-- Reads a document with room for so many calls. -/
def read (room : Nat) (cs : List Char) : Except Fault Table :=
  (document room (cs.length + 2) ⟨[], []⟩ cs).map fun d => entryValues d.entries

end InspectionFeed.Toml.Strict
