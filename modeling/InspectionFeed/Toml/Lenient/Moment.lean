/-
Dates and times in the lenient reading of a TOML document: a word is one as a
whole or not at all. The year may be in the digits of any script, and an
upright bar may stand for the sign of an offset, which then is ahead of UTC.
-/
import InspectionFeed.Text.Digit
import InspectionFeed.Toml.Moment
import InspectionFeed.Value.Basic

namespace InspectionFeed.Toml.Lenient

/-- A year: four digits. -/
def year? (cs : List Char) : Option (Nat × List Char) := do
  let ds ← (cs.take 4).mapM Text.decimalValue?
  if ds.length = 4 then some (Text.ofDigitValues ds, cs.drop 4) else none

/-- A day. -/
def date? (cs : List Char) : Option (Date × List Char) := do
  let (year, cs) ← year? cs
  dateIn? year cs

/-- An offset from UTC up to the end, if there is one. -/
def offset? (cs : List Char) : Option (Option UtcOffset) :=
  match cs with
  | [] => some none
  | ['Z'] | ['z'] => some (some .zulu)
  | sign :: rest =>
    if sign == '+' || sign == '-' || sign == '|' then
      match shift? sign rest with
      | some (o, []) => some (some o)
      | _ => none
    else none

/-- The date, the time or both that a word stands for. -/
def moment? (cs : List Char) : Option Value :=
  match date? cs with
  | some (d, []) => some (.date d)
  | some (d, c :: rest) => do
    guard (c == 'T' || c == 't' || c == ' ')
    let (t, rest) ← time? .v11 rest
    return .datetime d t (← offset? rest)
  | none =>
    match time? .v11 cs with
    | some (t, []) => some (.time t)
    | _ => none

end InspectionFeed.Toml.Lenient
