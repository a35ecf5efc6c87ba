/-
Halves of surrogate pairs. A text of the outside world may hold one by
itself, where an escape names half of a pair only. It is no character and no
encoding takes it, but it stays in its text, and is told from others, until
the text is to be written. A report is not written then; what is shown to the
user has an escape instead.

A text here holds characters only. So a character for private use stands for
each half and is taken for it wherever it is met.
-/

namespace InspectionFeed.Text

/-- The code point of the first character that stands for a half. -/
def firstHalf : Nat := 0x107000

/-- The character that stands for the half of this number. -/
def halfChar (unit : Nat) : Char := .ofNat (firstHalf + (unit - 0xD800))

/-- The character stands for a half. -/
def isHalf (c : Char) : Bool := firstHalf ≤ c.toNat && c.toNat < firstHalf + 0x800

/-- The number of the half that a character stands for. -/
def halfUnit (c : Char) : Nat := 0xD800 + (c.toNat - firstHalf)

/-- A number in lower-case hex with at least `width` digits. -/
def hexDigits (width n : Nat) : List Char :=
  let ds := Nat.toDigits 16 n
  List.replicate (width - ds.length) '0' ++ ds

/-- The escape that names a half. -/
def halfEscape (unit : Nat) : List Char := '\\' :: 'u' :: hexDigits 4 unit

/-- A text with its halves as escapes, which any encoding takes. -/
def escapeHalves (text : String) : String :=
  .ofList (text.toList.flatMap fun c => if isHalf c then halfEscape (halfUnit c) else [c])

/-- The first halves in a text that is to be encoded, which are in a row. -/
structure EncodingFault where
  first : Nat
  count : Nat
  /-- The number of the first one. -/
  unit : Nat
  deriving Repr, DecidableEq

/-- The complaint about halves that cannot be encoded. -/
def EncodingFault.message (f : EncodingFault) : String :=
  let halves :=
    if f.count = 1 then
      "character '" ++ .ofList (halfEscape f.unit) ++ "' in position " ++ toString f.first
    else "characters in position " ++ toString f.first ++ "-" ++ toString (f.first + f.count - 1)
  "'utf-8' codec can't encode " ++ halves ++ ": surrogates not allowed"

/-- What keeps a text from being encoded. -/
def encodingFault? (text : String) : Option EncodingFault :=
  match text.toList.dropWhile (!isHalf ·) with
  | [] => none
  | c :: rest =>
    some ⟨(text.toList.takeWhile (!isHalf ·)).length, (rest.takeWhile isHalf).length + 1,
      halfUnit c⟩

end InspectionFeed.Text
