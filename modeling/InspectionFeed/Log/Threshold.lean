/-
Which log lines are shown: those at or above a threshold. The command line
asks for more or fewer lines by counting switches; the environment names a
threshold by word or number and wins over the command line.
-/
import InspectionFeed.Log.Event
import InspectionFeed.Text.Blank
import InspectionFeed.Text.Case
import InspectionFeed.Text.Digit

namespace InspectionFeed.Log

/-! ## Counted switches -/

/-- The threshold that is asked for by so many switches for more lines and for fewer. Asking for
both is a contradiction. -/
def levelOfCounts? (more fewer : Int) : Option Level :=
  if 0 < more ∧ 0 < fewer then none
  else if 3 ≤ more then some .trace
  else if more = 2 then some .debug
  else if more = 1 then some .info
  else if 0 < fewer then some .error
  else some .warning

/-- The complaint about asking for both. -/
def contradictionMessage : String :=
  "The '--verbose' and '--quiet' options are mutually exclusive."

/-! ## The environment -/

/-- The name of the variable that holds a threshold. -/
def thresholdVariable : String := "TCINSPECT_LOG_LEVEL"

/-- Thresholds by the words that may stand for them. -/
def namedThresholds : List (String × Nat) :=
  Level.all.map (fun l => (l.name, l.number)) ++ [("WARN", 30), ("FATAL", 50), ("NOTSET", 0)]

/-- The threshold that a text stands for: a word in any case, or a number; blanks around it do
not count. Any other text stands for none. -/
def thresholdOfText (text : String) : Except Text.NumeralFault (Option Nat) :=
  let word := Text.upper (Text.trim text)
  if Text.isDigits word then (Text.readNumeral word).map some
  else .ok (namedThresholds.lookup word)

/-- The threshold that the environment gives, if it does. -/
def thresholdOfVariable : Option String → Except Text.NumeralFault (Option Nat)
  | some text => thresholdOfText text
  | none => .ok none

/-- The threshold that holds: the one asked for, else that of the environment, else the highest;
zero in the environment counts as silence. -/
def threshold (asked : Option Int) (environment : Option String) : Except Text.NumeralFault Int :=
  match asked with
  | some n => .ok n
  | none => (thresholdOfVariable environment).map fun
    | none => Level.critical.number
    | some 0 => Level.critical.number
    | some n => n

/-- The lines that are shown under a threshold. -/
def shown (threshold : Int) (events : List Event) : List Event :=
  events.filter (·.isShown threshold)

end InspectionFeed.Log
