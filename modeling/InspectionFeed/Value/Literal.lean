/-
The literal of a value, for messages that show what was found: quoted texts,
lists and tables in brackets, numbers in decimal, dates and times by their
parts.
-/
import InspectionFeed.Decimal.Shortest
import InspectionFeed.Text.Quoted
import InspectionFeed.Value.Basic

namespace InspectionFeed

/-- Items between brackets, separated by commas. -/
def enclose (opening closing : String) (items : List String) : String :=
  opening ++ ", ".intercalate items ++ closing

/-- The parts of a time, without the zeros at the end; hour and minute stay. -/
def TimeOfDay.parts (t : TimeOfDay) : List Nat :=
  if t.microsecond ≠ 0 then [t.hour, t.minute, t.second, t.microsecond]
  else if t.second ≠ 0 then [t.hour, t.minute, t.second]
  else [t.hour, t.minute]

def Date.parts (d : Date) : List Nat := [d.year, d.month, d.day]

/-- The literal of a span of minutes: whole days, possibly negative, and the seconds above. -/
def spanLiteral (minutes : Int) : String :=
  let days := minutes.fdiv 1440
  let seconds := minutes.fmod 1440 * 60
  if minutes = 0 then "datetime.timedelta(0)"
  else if days = 0 then "datetime.timedelta(seconds=" ++ toString seconds ++ ")"
  else if seconds = 0 then "datetime.timedelta(days=" ++ toString days ++ ")"
  else "datetime.timedelta(days=" ++ toString days ++ ", seconds=" ++ toString seconds ++ ")"

/-- Two decimal digits. -/
def twoDigits (n : Nat) : String :=
  if n < 10 then "0" ++ toString n else toString n

/-- The literal of an offset from UTC: the span and its written name. -/
def UtcOffset.literal : UtcOffset → String
  | .zulu => "datetime.timezone(" ++ spanLiteral 0 ++ ", 'UTC')"
  | .shift sign hours minutes =>
    let span : Int := hours * 60 + minutes
    let name := String.ofList [sign] ++ twoDigits hours ++ ":" ++ twoDigits minutes
    "datetime.timezone(" ++ spanLiteral (if sign = '-' then -span else span) ++ ", '" ++ name ++
      "')"

/-- The literals of the parts of a date or time. -/
def partLiterals (parts : List Nat) : List String :=
  parts.map fun n => toString n

mutual

def Value.literal : Value → String
  | .null => "None"
  | .bool b => if b then "True" else "False"
  | .int i => toString i
  | .float x => x.text
  | .str s => Text.quoted s
  | .list items => enclose "[" "]" (itemLiterals items)
  | .dict entries => enclose "\x7b" "\x7d" (entryLiterals entries)
  | .date d => enclose "datetime.date(" ")" (partLiterals d.parts)
  | .time t => enclose "datetime.time(" ")" (partLiterals t.parts)
  | .datetime d t offset =>
    enclose "datetime.datetime(" ")"
      (partLiterals (d.parts ++ t.parts) ++
        match offset with
        | some o => ["tzinfo=" ++ o.literal]
        | none => [])

/-- The literals of the items of a list. -/
def itemLiterals : List Value → List String
  | [] => []
  | v :: vs => v.literal :: itemLiterals vs

/-- The literals of the entries of a table. -/
def entryLiterals : List (String × Value) → List String
  | [] => []
  | (k, v) :: es => (Text.quoted k ++ ": " ++ v.literal) :: entryLiterals es

end

def textListLiteral (texts : List String) : String :=
  enclose "[" "]" (texts.map Text.quoted)

/-- The literal of a fixed sequence of texts; a single one keeps its comma. -/
def textTupleLiteral : List String → String
  | [text] => "(" ++ Text.quoted text ++ ",)"
  | texts => enclose "(" ")" (texts.map Text.quoted)

end InspectionFeed
