/-
The text of a binary64 value: the fewest decimal digits that read back as
the same value, and of those the nearest.

A value stands for the interval of reals that round to it; the ends belong
to it when the mantissa is even. For one digit, two digits and so on, the two
neighbours of the value among the decimals of that length are tried; the
first length with a neighbour inside the interval wins.

Written out, a number from 10^-4 up to 10^16 is positional and has at least
one digit after the point; any other has an exponent of at least two digits.
-/
import InspectionFeed.Decimal.Binary64

namespace InspectionFeed.Decimal

/-- A non-negative quotient of natural numbers. -/
structure Quotient where
  num : Nat
  den : Nat
  deriving Repr

/-- The first quotient is less than the second. -/
def Quotient.lt (a b : Quotient) : Bool := a.num * b.den < b.num * a.den

/-- The distance of two quotients. -/
def Quotient.distance (a b : Quotient) : Quotient :=
  ⟨max (a.num * b.den) (b.num * a.den) - min (a.num * b.den) (b.num * a.den), a.den * b.den⟩

/-- `n * 2 ^ exponent`. -/
def Quotient.binary (n : Nat) (exponent : Int) : Quotient :=
  ⟨n * Nat.pow 2 exponent.toNat, Nat.pow 2 (-exponent).toNat⟩

/-- `n * 10 ^ exponent`. -/
def Quotient.decimal (n : Nat) (exponent : Int) : Quotient :=
  ⟨n * Nat.pow 10 exponent.toNat, Nat.pow 10 (-exponent).toNat⟩

/-- The position of the decimal point from the first digit: the least `p` with the value below
`10 ^ p`, searched downwards from zero in at most `fuel` steps. -/
def pointBelow (v : Quotient) : Nat → Int → Int
  | 0, p => p
  | fuel + 1, p => if v.lt (.decimal 1 (p - 1)) then pointBelow v fuel (p - 1) else p

/-- The position of the decimal point from the first digit. -/
def pointOf (v : Quotient) : Int :=
  let whole := v.num / v.den
  if whole = 0 then pointBelow v 400 0 else (Nat.toDigits 10 whole).length

/-- The reals that round to a value. -/
structure Interval where
  value : Quotient
  lower : Quotient
  upper : Quotient
  /-- Both ends belong to it. -/
  closed : Bool
  deriving Repr

/-- The interval of `mantissa * 2 ^ exponent`. Below a power of two the neighbours are closer. -/
def Interval.of (mantissa : Nat) (exponent : Int) : Interval :=
  let down := if mantissa = Nat.pow 2 52 ∧ leastExponent < exponent then 1 else 2
  ⟨.binary (4 * mantissa) (exponent - 2), .binary (4 * mantissa - down) (exponent - 2),
    .binary (4 * mantissa + 2) (exponent - 2), mantissa % 2 == 0⟩

/-- The number rounds to the value. -/
def Interval.holds (i : Interval) (x : Quotient) : Bool :=
  if i.closed then !x.lt i.lower && !i.upper.lt x else i.lower.lt x && x.lt i.upper

/-- The decimal of `count` digits, with the given last place, that is nearest to the value among
its two neighbours in the interval. -/
def nearestIn? (i : Interval) (place : Int) : Option Nat :=
  let scaled := if 0 ≤ place then i.value.num / (i.value.den * Nat.pow 10 place.toNat)
    else i.value.num * Nat.pow 10 (-place).toNat / i.value.den
  let below := Quotient.decimal scaled place
  let above := Quotient.decimal (scaled + 1) place
  match i.holds below, i.holds above with
  | true, true =>
    let b := below.distance i.value
    let a := above.distance i.value
    if b.lt a ∨ (!a.lt b ∧ scaled % 2 = 0) then some scaled else some (scaled + 1)
  | true, false => some scaled
  | false, true => some (scaled + 1)
  | false, false => none

/-- The shortest decimal in the interval, as a number and its last place, of at least `count`
digits. Seventeen digits always suffice. -/
def shortestFrom (i : Interval) (point : Int) : Nat → Int → Nat × Int
  | 0, _ => (0, 0)
  | fuel + 1, count =>
    match nearestIn? i (point - count) with
    | some n => (n, point - count)
    | none => shortestFrom i point fuel (count + 1)

/-- The digits of a number without the zeros at its end. -/
def significantDigits (n : Nat) : List Char :=
  ((Nat.toDigits 10 n).reverse.dropWhile (· == '0')).reverse

/-- Digits with the decimal point `point` places after the first. -/
def layOut (digits : List Char) (point : Int) : List Char :=
  if -4 < point ∧ point ≤ 16 then
    if point ≤ 0 then '0' :: '.' :: List.replicate (-point).toNat '0' ++ digits
    else
      let whole := digits.take point.toNat
      let rest := digits.drop point.toNat
      whole ++ List.replicate (point.toNat - whole.length) '0' ++
        '.' :: (if rest.isEmpty then ['0'] else rest)
  else
    let exponent := point - 1
    let size := Nat.toDigits 10 exponent.natAbs
    let shown := match digits with
      | d :: e :: rest => d :: '.' :: e :: rest
      | ds => ds
    shown ++ 'e' :: (if exponent < 0 then '-' else '+') ::
      (List.replicate (2 - size.length) '0' ++ size)

/-- The text of a positive value. -/
def positiveText (mantissa : Nat) (exponent : Int) : List Char :=
  let i := Interval.of mantissa exponent
  let (n, place) := shortestFrom i (pointOf i.value) 18 1
  layOut (significantDigits n) ((Nat.toDigits 10 n).length + place)

/-- The text of a value. -/
def Binary64.text : Binary64 → String
  | .nan => "nan"
  | .infinite negative => if negative then "-inf" else "inf"
  | .finite negative mantissa exponent =>
    let magnitude := if mantissa = 0 then ['0', '.', '0'] else positiveText mantissa exponent
    .ofList (if negative then '-' :: magnitude else magnitude)

end InspectionFeed.Decimal
