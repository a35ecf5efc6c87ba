/-
Lower and upper case of texts, by the full mappings of Unicode: a character
may become several, and a capital sigma becomes the final form at the end of
a word. The end of a word is judged by the nearest characters on both sides
that the case of a word does not pass over.
-/
import InspectionFeed.Text.CaseTable

namespace InspectionFeed.Text

/-- The code point is in the run. -/
def Shift.covers (s : Shift) (n : Nat) : Bool :=
  s.first ≤ n && n ≤ s.last && (n - s.first) % s.stride == 0

/-- The image of a code point under the first run that covers it, or the code point itself. -/
def shifted (shifts : List Shift) (n : Nat) : Nat :=
  match shifts.find? (·.covers n) with
  | some s => n + s.up - s.down
  | none => n

/-- The image of a character under a case mapping, without regard to its neighbours. -/
def mapCase (expansions : List (Nat × List Nat)) (shifts : List Shift) (c : Char) : List Char :=
  match expansions.lookup c.toNat with
  | some image => image.map Char.ofNat
  | none => [.ofNat (shifted shifts c.toNat)]

/-- The capital sigma, whose lower case depends on its neighbours. -/
def capitalSigma : Char := '\u03a3'

/-- The lower case of one character; ASCII needs no table. -/
def lowerChar (c : Char) : List Char :=
  if c.toNat < 128 then [c.toLower] else mapCase lowerExpansions lowerShifts c

/-- The upper case of one character; ASCII needs no table. -/
def upperChar (c : Char) : List Char :=
  if c.toNat < 128 then [c.toUpper] else mapCase upperExpansions upperShifts c

/-- No letter of the same word follows. -/
def endsWord (following : List Char) : Bool :=
  match following.dropWhile caseIgnorable.has with
  | [] => true
  | c :: _ => !cased.has c

/-- The lower case of a text; `inWord` says that a letter of the same word came before. -/
def lowerFrom (inWord : Bool) : List Char → List Char
  | [] => []
  | c :: cs =>
    let image :=
      if c = capitalSigma then [if inWord && endsWord cs then '\u03c2' else '\u03c3']
      else lowerChar c
    image ++ lowerFrom (if caseIgnorable.has c then inWord else cased.has c) cs

def lower (s : String) : String :=
  .ofList (lowerFrom false s.toList)

def upper (s : String) : String :=
  .ofList (s.toList.flatMap upperChar)

end InspectionFeed.Text
