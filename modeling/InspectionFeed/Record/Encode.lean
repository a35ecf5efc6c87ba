/-
Writing a finding as the table of a record. Every field is written, with the
severity by its key; reading the table gives the finding back.
-/
import InspectionFeed.Record.Basic

namespace InspectionFeed

/-- The table of a place. -/
def Location.toTable (l : Location) : Table :=
  [("file", .str l.file), ("line", .int l.line), ("column", .int l.column)]

/-- The table of a finding. -/
def Diagnostic.toTable (d : Diagnostic) : Table :=
  [("kind", .str "diagnostic"), ("id", .str d.kind), ("severity", .str d.severity.key),
    ("short", .str d.short), ("verbose", .str d.verbose), ("inconclusive", .bool d.inconclusive),
    ("cwe", .int d.cwe), ("file0", .str d.file0),
    ("locations", .list (d.frames.map fun l => .dict l.toTable))]

end InspectionFeed
