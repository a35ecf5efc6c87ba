/-
Numbers with a fraction or an exponent, rounded to the binary64 format: 53
bits of precision, the nearest value, a tie going to the even one. A number
too large becomes infinite, one too small becomes zero.

The arithmetic is exact on natural numbers, with `Nat.pow` for powers.
Decimal exponents far outside the format are settled by their size before
any power of ten is built.
-/

namespace InspectionFeed.Decimal

/-- A value of the binary64 format. -/
inductive Binary64
  | nan
  | infinite (negative : Bool)
  /-- `mantissa * 2 ^ exponent`, with at most 53 bits and an exponent of at least -1074. -/
  | finite (negative : Bool) (mantissa : Nat) (exponent : Int)
  deriving Repr, DecidableEq

/-- The nearest whole number to a quotient; a tie goes to the even one. -/
def roundQuotient (num den : Nat) : Nat :=
  let q := num / den
  let r := num % den
  if den < 2 * r ∨ (2 * r = den ∧ q % 2 = 1) then q + 1 else q

/-- The least exponent of the format. -/
def leastExponent : Int := -1074

/-- The greatest exponent of a mantissa of 53 bits. -/
def greatestExponent : Int := 971

/-- A quotient divided by a power of two, as a quotient. -/
def overPower (num den : Nat) (exponent : Int) : Nat × Nat :=
  if 0 ≤ exponent then (num, den * Nat.pow 2 exponent.toNat)
  else (num * Nat.pow 2 (-exponent).toNat, den)

namespace Binary64

/-- The value nearest to `num / den`. -/
def ofQuotient (negative : Bool) (num den : Nat) : Binary64 :=
  if num = 0 then .finite negative 0 0
  else
    let guess := max ((num.log2 : Int) - den.log2 - 53) leastExponent
    let wide := overPower num den guess
    let exponent := if Nat.pow 2 53 ≤ wide.1 / wide.2 then guess + 1 else guess
    let parts := overPower num den exponent
    let rounded := roundQuotient parts.1 parts.2
    let (mantissa, exponent) :=
      if rounded = Nat.pow 2 53 then (Nat.pow 2 52, exponent + 1) else (rounded, exponent)
    if greatestExponent < exponent then .infinite negative
    else .finite negative mantissa exponent

/-- The value nearest to `digits * 10 ^ exponent`. -/
def ofDecimal (negative : Bool) (digits : Nat) (exponent : Int) : Binary64 :=
  let size : Int := (Nat.toDigits 10 digits).length + exponent
  if digits = 0 then .finite negative 0 0
  else if 310 < size then .infinite negative
  else if size < -330 then .finite negative 0 0
  else if 0 ≤ exponent then ofQuotient negative (digits * Nat.pow 10 exponent.toNat) 1
  else ofQuotient negative digits (Nat.pow 10 (-exponent).toNat)

end Binary64

end InspectionFeed.Decimal
