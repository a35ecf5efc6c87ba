/-
Painting text that may be styled already. The paint is a list of codes to
switch on, each with the code that ends it.

A code in the text that ends a part of the paint would end it for the rest of
the text, so that part is switched on again right after it. What stands
between two resets on one line is left without paint, and so is every end of
a line.
-/
import InspectionFeed.Text.Colour

namespace InspectionFeed.Text

/-- A code, with the code that ends it. -/
structure Paint where
  start : Nat
  stop : Nat
  deriving Repr, DecidableEq

/-- The characters of the sequence that carries a code. -/
def codeChars (code : Nat) : List Char := (Ansi.sequence [code]).toList

namespace Paint

/-- Switches all of the paint on. -/
def startAll (ps : List Paint) : List Char := ps.flatMap fun p => codeChars p.start

/-- Switches all of the paint off. -/
def stopAll (ps : List Paint) : List Char := ps.flatMap fun p => codeChars p.stop

/-- Puts characters behind each place where a pattern stands, in at most `fuel` steps. -/
def putBehind (pattern behind : List Char) : Nat → List Char → List Char
  | 0, cs => cs
  | _ + 1, [] => []
  | fuel + 1, c :: cs =>
    match pattern.isPrefixOf? (c :: cs) with
    | some rest => pattern ++ behind ++ putBehind pattern behind fuel rest
    | none => c :: putBehind pattern behind fuel cs

/-- The characters up to the end of the next pattern on the line, and those behind it. -/
def through? (pattern : List Char) : List Char → Option (List Char × List Char)
  | [] => none
  | c :: cs =>
    match pattern.isPrefixOf? (c :: cs) with
    | some rest => some (pattern, rest)
    | none =>
      if c = '\n' then none
      else (through? pattern cs).map fun (part, rest) => (c :: part, rest)

/-- Keeps the paint off what stands between two resets on one line, in at most `fuel` steps. -/
def spareResets (ps : List Paint) : Nat → List Char → List Char
  | 0, cs => cs
  | _ + 1, [] => []
  | fuel + 1, c :: cs =>
    let reset := codeChars Ansi.reset
    match reset.isPrefixOf? (c :: cs) >>= through? reset with
    | some (part, rest) => stopAll ps ++ reset ++ part ++ startAll ps ++ spareResets ps fuel rest
    | none => c :: spareResets ps fuel cs

/-- Keeps the paint off the ends of lines. -/
def spareLineEnds (ps : List Paint) : List Char → List Char
  | '\r' :: '\n' :: cs => stopAll ps ++ ['\r', '\n'] ++ startAll ps ++ spareLineEnds ps cs
  | '\n' :: cs => stopAll ps ++ ['\n'] ++ startAll ps ++ spareLineEnds ps cs
  | c :: cs => c :: spareLineEnds ps cs
  | [] => []

/-- A text that has this part of the paint switched on again wherever it ends. -/
def renew (cs : List Char) (p : Paint) : List Char :=
  putBehind (codeChars p.stop) (codeChars p.start) (cs.length + 1) cs

def apply (ps : List Paint) (text : String) : String :=
  let renewed := ps.foldl renew text.toList
  let spared := spareLineEnds ps (spareResets ps (renewed.length + 1) renewed)
  .ofList (startAll ps ++ spared ++ stopAll ps)

end Paint

end InspectionFeed.Text
