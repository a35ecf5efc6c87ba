/-
The parts of dates and times in a TOML document.
-/
import InspectionFeed.Toml.Basic
import InspectionFeed.Value.Calendar
import InspectionFeed.Text.Hex

namespace InspectionFeed.Toml

/-- The value of digits of a base, one after the other. -/
def digitsIn (base : Nat) (ds : List Char) : Nat :=
  ds.foldl (fun n d => base * n + (Text.hexValue? d).getD 0) 0

/-- A number of exactly this many digits. -/
def fixedDigits? (width : Nat) (cs : List Char) : Option (Nat × List Char) :=
  let ds := cs.take width
  if ds.length = width ∧ ds.all Char.isDigit then some (digitsIn 10 ds, cs.drop width) else none

/-- A day of a year that has been read. -/
def dateIn? (year : Nat) (cs : List Char) : Option (Date × List Char) := do
  let (month, cs) ← fixedDigits? 2 (← expect? '-' cs)
  let (day, cs) ← fixedDigits? 2 (← expect? '-' cs)
  let d : Date := ⟨year, month, day⟩
  if d.isValid then some (d, cs) else none

/-- The microseconds of a fraction of a second; further digits are dropped. -/
def microseconds (ds : List Char) : Nat :=
  let ds := ds.take 6
  digitsIn 10 (ds ++ List.replicate (6 - ds.length) '0')

/-- The microseconds of a time, if a point and digits come. -/
def fraction (cs : List Char) : Nat × List Char :=
  match cs with
  | '.' :: rest =>
    let ds := rest.takeWhile Char.isDigit
    if ds.isEmpty then (0, cs) else (microseconds ds, rest.dropWhile Char.isDigit)
  | _ => (0, cs)

/-- Seconds and microseconds. Version 1.1 can do without them. -/
def seconds? (edition : Edition) (cs : List Char) : Option ((Nat × Nat) × List Char) :=
  match expect? ':' cs with
  | some rest => do
    let (second, rest) ← fixedDigits? 2 rest
    let (micro, rest) := fraction rest
    return ((second, micro), rest)
  | none => if edition = .v11 then some ((0, 0), cs) else none

/-- A time of day. -/
def time? (edition : Edition) (cs : List Char) : Option (TimeOfDay × List Char) := do
  let (hour, cs) ← fixedDigits? 2 cs
  let (minute, cs) ← fixedDigits? 2 (← expect? ':' cs)
  let ((second, micro), cs) ← seconds? edition cs
  let t : TimeOfDay := ⟨hour, minute, second, micro⟩
  if t.isValid then some (t, cs) else none

/-- An offset from UTC after its sign. -/
def shift? (sign : Char) (cs : List Char) : Option (UtcOffset × List Char) := do
  let (hours, cs) ← fixedDigits? 2 cs
  let (minutes, cs) ← fixedDigits? 2 (← expect? ':' cs)
  if hours ≤ 23 ∧ minutes ≤ 59 then some (.shift sign hours minutes, cs) else none

end InspectionFeed.Toml
