/-
Numbers, dates and times in the strict reading of a TOML document. Each
reader takes the characters from its first on and gives the value with the
characters behind it, or nothing where the document is wrong.
-/
import InspectionFeed.Text.Digit
import InspectionFeed.Toml.Moment
import InspectionFeed.Value.Basic

namespace InspectionFeed.Toml.Strict

/-! ## Numbers -/

/-- Digits of a base, single underscores between them left out. -/
def digitRun? (isDigit : Char → Bool) : List Char → Option (List Char × List Char)
  | [] => none
  | c :: cs => if isDigit c then some (continueRun [c] cs) else none
where
  /-- The digits after those read, which are in reverse. -/
  continueRun (read : List Char) : List Char → List Char × List Char
    | [] => (read.reverse, [])
    | '_' :: d :: cs =>
      if isDigit d then continueRun (d :: read) cs else (read.reverse, '_' :: d :: cs)
    | d :: cs => if isDigit d then continueRun (d :: read) cs else (read.reverse, d :: cs)

/-- The digits of a decimal number's whole part: a zero alone, or digits that start with
another. -/
def wholeDigits? : List Char → Option (List Char × List Char)
  | '0' :: cs => some (['0'], cs)
  | cs => digitRun? Char.isDigit cs

/-- The digits of a fraction, after the point if there is one. -/
def fraction? : List Char → Option (Option (List Char) × List Char)
  | '.' :: cs => (digitRun? Char.isDigit cs).map fun (ds, rest) => (some ds, rest)
  | cs => some (none, cs)

/-- An exponent, after its letter if there is one. -/
def exponent? : List Char → Option (Option Int × List Char)
  | 'e' :: cs | 'E' :: cs =>
    let (negative, cs) := match cs with
      | '-' :: ds => (true, ds)
      | '+' :: ds => (false, ds)
      | ds => (false, ds)
    (digitRun? Char.isDigit cs).map fun (ds, rest) =>
      let n : Int := digitsIn 10 ds
      (some (if negative then -n else n), rest)
  | cs => some (none, cs)

/-- A decimal number after its sign. One without fraction and exponent may not be longer than a
numeral may be. -/
def decimal? (negative : Bool) (cs : List Char) : Option (Value × List Char) := do
  let (whole, rest) ← wholeDigits? cs
  let (fraction, rest) ← fraction? rest
  let (exponent, rest) ← exponent? rest
  if fraction.isNone && exponent.isNone then
    if Text.numeralLimit < whole.length then none
    else
      let n : Int := digitsIn 10 whole
      some (.int (if negative then -n else n), rest)
  else
    let fraction := fraction.getD []
    let shift : Int := exponent.getD 0 - fraction.length
    some (.float (.ofDecimal negative (digitsIn 10 (whole ++ fraction)) shift), rest)

/-- A number after its sign: a word, or digits. -/
def signed? (negative : Bool) (cs : List Char) : Option (Value × List Char) :=
  match cs with
  | 'i' :: 'n' :: 'f' :: rest => some (.float (.infinite negative), rest)
  | 'n' :: 'a' :: 'n' :: rest => some (.float .nan, rest)
  | _ => decimal? negative cs

/-- A whole number in the digits of a base. -/
def based? (base : Nat) (isDigit : Char → Bool) (cs : List Char) : Option (Value × List Char) :=
  (digitRun? isDigit cs).map fun (ds, rest) => (.int (digitsIn base ds), rest)

def number? : List Char → Option (Value × List Char)
  | '+' :: cs => signed? false cs
  | '-' :: cs => signed? true cs
  | '0' :: 'x' :: cs => based? 16 (fun c => (Text.hexValue? c).isSome) cs
  | '0' :: 'o' :: cs => based? 8 (fun c => '0' ≤ c && c ≤ '7') cs
  | '0' :: 'b' :: cs => based? 2 (fun c => c == '0' || c == '1') cs
  | cs => signed? false cs

/-! ## Dates and times -/

/-- A day. -/
def date? (cs : List Char) : Option (Date × List Char) := do
  let (year, cs) ← fixedDigits? 4 cs
  dateIn? year cs

/-- An offset from UTC, if there is one. -/
def offset (cs : List Char) : Option UtcOffset × List Char :=
  let found := match cs with
    | 'Z' :: rest | 'z' :: rest => some (.zulu, rest)
    | '+' :: rest => shift? '+' rest
    | '-' :: rest => shift? '-' rest
    | _ => none
  match found with
  | some (o, rest) => (some o, rest)
  | none => (none, cs)

/-- A day, or a day and a time with a space or the letter T between. -/
def dateOrDatetime? (cs : List Char) : Option (Value × List Char) := do
  let (d, cs) ← date? cs
  match cs with
  | c :: rest =>
    if c == 'T' || c == 't' || c == ' ' then
      match time? .v10 rest with
      | some (t, rest) =>
        let (o, rest) := offset rest
        some (.datetime d t o, rest)
      | none => some (.date d, cs)
    else some (.date d, cs)
  | [] => some (.date d, [])

/-- The characters look like a date: four digits and a hyphen. -/
def looksLikeDate (cs : List Char) : Bool :=
  (cs.take 4).all Char.isDigit && (cs.drop 4).head? == some '-'

/-- The characters look like a time: two digits and a colon. -/
def looksLikeTime (cs : List Char) : Bool :=
  (cs.take 2).all Char.isDigit && (cs.drop 2).head? == some ':'

/-- A number, date or time. -/
def quantity? (cs : List Char) : Option (Value × List Char) :=
  if looksLikeDate cs then dateOrDatetime? cs
  else if looksLikeTime cs then (time? .v10 cs).map fun (t, rest) => (.time t, rest)
  else number? cs

end InspectionFeed.Toml.Strict
