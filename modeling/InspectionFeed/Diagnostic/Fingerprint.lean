/-
The fingerprint of a finding: one text that holds all of it. Two findings
are the same exactly when their fingerprints are.

Each field is written after its length, so no content can be taken for the
end of a field. The places come last, after their number; a place is one
field that holds line, column and file between tabs.

A finding with a number that is too long to be printed has no fingerprint.
-/
import InspectionFeed.Diagnostic.Basic
import InspectionFeed.Text.Digit

namespace InspectionFeed

/-- A field: its length in characters, a space, and its content. -/
def sizedField (content : String) : String := toString content.length ++ " " ++ content

/-- The content of a place's field. -/
def Location.fieldText? (l : Location) : Option String := do
  return (← Text.printed? l.line) ++ "\t" ++ (← Text.printed? l.column) ++ "\t" ++ l.file

namespace Diagnostic

/-- The contents of the fields before the places. -/
def fieldTexts? (d : Diagnostic) : Option (List String) := do
  return [d.kind, d.severity.key, ← Text.printed? d.cwe,
    if d.inconclusive then "inconclusive" else "", d.short, d.verbose, d.file0]

def fingerprint? (d : Diagnostic) : Option String := do
  let fields ← d.fieldTexts?
  let places ← d.frames.mapM Location.fieldText?
  return String.join (fields.map sizedField) ++ toString d.frames.length ++ " " ++
    String.join (places.map sizedField)

end Diagnostic

end InspectionFeed
