/-
How severe the analyser considers a finding. Each severity is a keyword of a
closed vocabulary; two tables say how it is shown in the category of a kind
and in the attribute of a finding.
-/
import InspectionFeed.Keyword
import InspectionFeed.Text.Quoted

namespace InspectionFeed

/-- The severity of a finding. -/
inductive Severity
  | none
  | error
  | warning
  | style
  | performance
  | portability
  | information
  | debug
  deriving Repr, DecidableEq, Inhabited

namespace Severity

/-- The severities, in order. -/
def all : List Severity :=
  [.none, .error, .warning, .style, .performance, .portability, .information, .debug]

def keyword : Severity → Keyword
  | .none => ⟨"NONE", "none", []⟩
  | .error => ⟨"ERROR", "error", []⟩
  | .warning => ⟨"WARNING", "warning", []⟩
  | .style => ⟨"STYLE", "style", []⟩
  | .performance => ⟨"PERFORMANCE", "performance", []⟩
  | .portability => ⟨"PORTABILITY", "portability", []⟩
  | .information => ⟨"INFORMATION", "information", ["info"]⟩
  | .debug => ⟨"DEBUG", "debug", []⟩

/-- The stable key of a severity. -/
def key (s : Severity) : String := s.keyword.key

/-- The severity that a text names, by key, name or alias. -/
def parse? (text : String) : Option Severity :=
  all.find? (·.keyword.isSpelledBy text)

/-- The severity with exactly this key. -/
def ofKey? (key : String) : Option Severity := all.find? (·.key == key)

/-- The complaint about a text that is no key. -/
def badKeyMessage (key : String) : String :=
  Text.quoted key ++ " is not a valid Severity"

/-- The name in the category of a kind; no severity has none. -/
def displayName (s : Severity) : String := if s = .none then "" else s.key

/-- The attribute of a finding, for the severities that have one. -/
def attribute? : Severity → Option String
  | .none => Option.none
  | .error => some "ERROR"
  | .warning => some "WARNING"
  | .information => some "INFO"
  | .debug => some "INFO"
  | .style => some "INFO"
  | .performance => some "WEAK WARNING"
  | .portability => some "WEAK WARNING"

end Severity

end InspectionFeed
