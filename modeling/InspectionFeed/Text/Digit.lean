/-
Numbers written in the digits of any script.

`readNumeral` reads a text all of whose characters are digits. Two things
can go wrong, and each has its wording: the text is longer than a numeral
may be, or it holds a digit that belongs to no decimal system (a
superscript, a circled digit). The length is checked first, over the decimal
digits the text begins with.

What is too long to be read is too long to be printed as well.
-/
import InspectionFeed.Text.DigitTable
import InspectionFeed.Text.Quoted

namespace InspectionFeed.Text

/-- The value of a decimal digit of some script. -/
def decimalValue? (c : Char) : Option Nat :=
  (decimalZeros.find? fun z => z ≤ c.toNat && c.toNat ≤ z + 9).map (c.toNat - ·)

/-- A digit: decimal, or one of the others. -/
def isDigit (c : Char) : Bool :=
  (decimalValue? c).isSome || otherDigits.has c

/-- The text is not empty and holds digits only. -/
def isDigits (s : String) : Bool :=
  !s.isEmpty && s.toList.all isDigit

/-- The most decimal digits a numeral may have. -/
def numeralLimit : Nat := 4300

/-- Why a text of digits is not read as a number. -/
inductive NumeralFault
  /-- It has more decimal digits than a numeral may have. -/
  | tooLong (digits : Nat)
  /-- It holds a digit that is not decimal. -/
  | notDecimal (text : String)
  deriving Repr, DecidableEq

/-- The complaint about a text of digits. A long text is quoted in part. -/
def NumeralFault.message : NumeralFault → String
  | .tooLong n =>
    "Exceeds the limit (" ++ toString numeralLimit ++
      " digits) for integer string conversion: value has " ++ toString n ++
      " digits; use sys.set_int_max_str_digits() to increase the limit"
  | .notDecimal text =>
    "invalid literal for int() with base 10: " ++ .ofList ((quoted text).toList.take 200)

/-- The number that a list of decimal digit values stands for. -/
def ofDigitValues (ds : List Nat) : Nat :=
  ds.foldl (fun n d => 10 * n + d) 0

/-- The number that a text of digits stands for. -/
def readNumeral (s : String) : Except NumeralFault Nat :=
  let cs := s.toList
  let leading := (cs.takeWhile fun c => (decimalValue? c).isSome).length
  if numeralLimit < leading then .error (.tooLong leading)
  else if leading < cs.length then .error (.notDecimal s)
  else .ok (ofDigitValues (cs.filterMap decimalValue?))

/-- The number has no more digits than a numeral may have. -/
def fitsNumeral (i : Int) : Bool := i.natAbs.repr.length ≤ numeralLimit

/-- A number as it is printed, unless it is too long. -/
def printed? (i : Int) : Option String := if fitsNumeral i then some (toString i) else none

/-- The complaint about a number that is too long to be printed. -/
def unprintableMessage : String :=
  "Exceeds the limit (" ++ toString numeralLimit ++
    " digits) for integer string conversion; use sys.set_int_max_str_digits() to increase the limit"

end InspectionFeed.Text
