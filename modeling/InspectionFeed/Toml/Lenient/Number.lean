/-
Numbers in the lenient reading of a TOML document. A number is read from all
the characters up to the next that ends a word.

Digits may be those of any script, and blanks outside the format's white
space may follow. What makes a number wrong is written with the digits of
ASCII only: a zero in front, an underscore that is not between two digits, a
point without a digit behind it. Letters may be in either case, but for those
of a base.
-/
import InspectionFeed.Decimal.Binary64
import InspectionFeed.Text.Blank
import InspectionFeed.Text.Digit
import InspectionFeed.Text.Hex
import InspectionFeed.Value.Basic

namespace InspectionFeed.Toml.Lenient

/-! ## The form of a number -/

/-- The base that the characters after the sign begin with, ten where they name none. -/
def baseOf : List Char → Nat
  | '0' :: 'b' :: _ => 2
  | '0' :: 'o' :: _ => 8
  | '0' :: 'x' :: _ => 16
  | _ => 10

/-- A digit of a base, in ASCII. -/
def isDigitOf (base : Nat) (c : Char) : Bool :=
  match Text.hexValue? c with
  | some n => n < base
  | none => false

/-- Leaves out each underscore between two digits. -/
def dropSeparators (isDigit : Char → Bool) : List Char → List Char
  | a :: '_' :: b :: cs =>
    if isDigit a && isDigit b then a :: dropSeparators isDigit (b :: cs)
    else a :: dropSeparators isDigit ('_' :: b :: cs)
  | c :: cs => c :: dropSeparators isDigit cs
  | [] => []

/-- The characters after the sign begin as no number does: with a zero that neither stands alone
nor begins a fraction, an exponent or a base, with a base after a sign, or with a point after a
sign. -/
def beginsBadly (signed : Bool) : List Char → Bool
  | '0' :: c :: _ =>
    !(c == '.' || c == 'e') && (signed || !(c == 'b' || c == 'o' || c == 'x'))
  | '.' :: _ :: _ => signed
  | _ => false

/-- A point ends the number or, where the digits are not hex, what comes before its exponent. -/
def hasLostPoint (base : Nat) (cs : List Char) : Bool :=
  cs.getLast? == some '.' ||
    (base != 16 && (cs.takeWhile (· != 'e')).getLast? == some '.')

/-! ## Values -/

/-- A blank that may follow a number. -/
def isTrailingBlank (c : Char) : Bool :=
  Text.isBlank c && !(28 ≤ c.toNat && c.toNat ≤ 31)

/-- The value of a digit of a base, in any script. -/
def digitIn? (base : Nat) (c : Char) : Option Nat :=
  match Text.decimalValue? c with
  | some n => if n < base then some n else none
  | none => (Text.hexValue? c).filter (· < base)

/-- The values of the digits of a base that the characters begin with, and what comes next. -/
def digitsAt (base : Nat) (cs : List Char) : List Nat × List Char :=
  (cs.takeWhile (digitIn? base · |>.isSome) |>.filterMap (digitIn? base),
    cs.dropWhile (digitIn? base · |>.isSome))

/-- The number that digit values of a base stand for. -/
def ofDigits (base : Nat) (ds : List Nat) : Nat :=
  ds.foldl (fun n d => base * n + d) 0

/-- What a text of digits stands for. -/
inductive Whole
  | number (n : Nat)
  /-- A decimal number with more digits than a numeral may have. -/
  | tooLong

/-- A whole number of a base, after the letters that name it. -/
def whole? (base : Nat) (cs : List Char) : Option Whole :=
  let (ds, rest) := digitsAt base (if base = 10 then cs else cs.drop 2)
  if ds.isEmpty || !rest.all isTrailingBlank then none
  else if base = 10 ∧ Text.numeralLimit < ds.length then some .tooLong
  else some (.number (ofDigits base ds))

/-- An exponent with the blanks behind it, if there is one. -/
def exponent? : List Char → Option Int
  | 'e' :: cs =>
    let (negative, cs) := match cs with
      | '-' :: cs => (true, cs)
      | '+' :: cs => (false, cs)
      | cs => (false, cs)
    let (ds, rest) := digitsAt 10 cs
    if ds.isEmpty || !rest.all isTrailingBlank then none
    else
      let n : Int := ofDigits 10 ds
      some (if negative then -n else n)
  | cs => if cs.all isTrailingBlank then some 0 else none

/-- A number with a fraction or an exponent. -/
def fractional? (negative : Bool) (cs : List Char) : Option Decimal.Binary64 := do
  let (whole, rest) := digitsAt 10 cs
  let (fraction, rest) := match rest with
    | '.' :: rest => digitsAt 10 rest
    | rest => ([], rest)
  guard (!(whole ++ fraction).isEmpty)
  let shift ← exponent? rest
  return .ofDecimal negative (ofDigits 10 (whole ++ fraction)) (shift - fraction.length)

/-- The words for what is no finite number. -/
def word? (negative : Bool) (cs : List Char) : Option Decimal.Binary64 :=
  let word := String.ofList (cs.reverse.dropWhile isTrailingBlank).reverse
  if word = "inf" ∨ word = "infinity" then some (.infinite negative)
  else if word = "nan" then some .nan
  else none

/-- The number of characters after a sign. -/
def unsigned? (signed negative : Bool) (cs : List Char) : Option Value :=
  let base := baseOf cs
  let plain := (dropSeparators (isDigitOf base) cs).map Char.toLower
  if beginsBadly signed cs || plain.contains '_' || hasLostPoint base plain then none
  else match whole? base plain with
    | some (.number n) => some (.int (if negative then -n else n))
    | some .tooLong => none
    | none => ((fractional? negative plain).or (word? negative plain)).map .float

/-- The number that a word of a document stands for. -/
def number? : List Char → Option Value
  | '+' :: cs => unsigned? true false cs
  | '-' :: cs => unsigned? true true cs
  | cs => unsigned? false false cs

end InspectionFeed.Toml.Lenient
