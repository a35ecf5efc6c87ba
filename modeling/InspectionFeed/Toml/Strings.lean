/-
The strings of a TOML document in their four forms: on one line or over
several, with escapes or without. Each reader starts after the opening quote.
-/
import InspectionFeed.Text.Hex
import InspectionFeed.Toml.Basic

namespace InspectionFeed.Toml

/-! ## Escapes -/

/-- The value of hex digits. -/
def hexValue? (ds : List Char) : Option Nat :=
  ds.foldlM (fun n d => (Text.hexValue? d).map (16 * n + ·)) 0

/-- The character of an escape by code point, with this many digits. -/
def codePoint? (width : Nat) (cs : List Char) : Option (Char × List Char) := do
  let ds := cs.take width
  guard (ds.length = width)
  let n ← hexValue? ds
  if n < 0xD800 ∨ (0xDFFF < n ∧ n < 0x110000) then some (.ofNat n, cs.drop width) else none

/-- The escapes that only version 1.1 has, after the backslash. -/
def newEscape? : List Char → Option (Char × List Char)
  | 'e' :: cs => some ('\x1b', cs)
  | 'x' :: cs => codePoint? 2 cs
  | _ => none

/-- The character of an escape, after the backslash. -/
def escape? (edition : Edition) : List Char → Option (Char × List Char)
  | 'b' :: cs => some ('\x08', cs)
  | 't' :: cs => some ('\t', cs)
  | 'n' :: cs => some ('\n', cs)
  | 'f' :: cs => some ('\x0c', cs)
  | 'r' :: cs => some ('\r', cs)
  | '"' :: cs => some ('"', cs)
  | '\\' :: cs => some ('\\', cs)
  | 'u' :: cs => codePoint? 4 cs
  | 'U' :: cs => codePoint? 8 cs
  | cs => if edition = .v11 then newEscape? cs else none

/-- A backslash at the end of a line drops the white space up to the next other character. -/
def afterLineBreak? (cs : List Char) : Option (List Char) :=
  match skipSpace cs with
  | '\n' :: rest => some (rest.dropWhile fun c => isSpace c || c == '\n')
  | _ => none

/-! ## Strings -/

/-- The rest of a string on one line, of at most `fuel` items, with escapes if `basic`. -/
def lineStringFrom (edition : Edition) (basic : Bool) (quote : Char) :
    Nat → List Char → List Char → Option (String × List Char)
  | 0, _, _ => none
  | _ + 1, _, [] => none
  | fuel + 1, read, c :: cs =>
    if c = quote then some (.ofList read.reverse, cs)
    else if basic && c == '\\' then do
      let (x, rest) ← escape? edition cs
      lineStringFrom edition basic quote fuel (x :: read) rest
    else if isControl c then none
    else lineStringFrom edition basic quote fuel (c :: read) cs

/-- The rest of a string over several lines. Three quotes end it, and up to two more right
before them belong to it. -/
def blockStringFrom (edition : Edition) (basic : Bool) (quote : Char) :
    Nat → List Char → List Char → Option (String × List Char)
  | 0, _, _ => none
  | _ + 1, _, [] => none
  | fuel + 1, read, c :: cs =>
    if c = quote then
      let run := 1 + (cs.takeWhile (· == quote)).length
      if run < 3 then blockStringFrom edition basic quote fuel (c :: read) cs
      else if run ≤ 5 then
        some (.ofList (read.reverse ++ List.replicate (run - 3) quote), cs.drop (run - 1))
      else none
    else if basic && c == '\\' then
      match afterLineBreak? cs with
      | some rest => blockStringFrom edition basic quote fuel read rest
      | none => do
        let (x, rest) ← escape? edition cs
        blockStringFrom edition basic quote fuel (x :: read) rest
    else if isControl c && c != '\n' then none
    else blockStringFrom edition basic quote fuel (c :: read) cs

def lineString? (edition : Edition) (quote : Char) (cs : List Char) :
    Option (String × List Char) :=
  lineStringFrom edition (quote == '"') quote (cs.length + 1) [] cs

/-- A string over several lines, after its three quotes. A line end right there is dropped. -/
def blockString? (edition : Edition) (quote : Char) (cs : List Char) :
    Option (String × List Char) :=
  let body := match cs with
    | '\n' :: body => body
    | body => body
  blockStringFrom edition (quote == '"') quote (body.length + 1) [] body

/-- What is behind two more quotes, if they come. -/
def afterTwo? (quote : Char) : List Char → Option (List Char)
  | a :: b :: rest => if a = quote ∧ b = quote then some rest else none
  | _ => none

/-- A string in any form. -/
def string? (edition : Edition) (quote : Char) (cs : List Char) : Option (String × List Char) :=
  match afterTwo? quote cs with
  | some rest => blockString? edition quote rest
  | none => lineString? edition quote cs

end InspectionFeed.Toml
