/-
Rewriting an absolute path relative to a base directory, and the file text of
a finding.

Bases are tried in order; the first that is a directory above the path is cut
off. A base equal to the path is not above it, and neither is an empty one. A
base may end with a separator; without one, the cut is still made only at a
separator.
-/
import InspectionFeed.Log.Event
import InspectionFeed.Path.Separators
import InspectionFeed.Text.Quoted

namespace InspectionFeed.Path

/-- A path cut after a base directory. -/
structure Cut where
  /-- The base, with separators forward. -/
  base : String
  rest : String
  deriving Repr, DecidableEq

/-- The characters of a directory with a separator at the end. -/
def asDirectory (base : List Char) : List Char :=
  if base.getLast? = some '/' then base else base ++ ['/']

/-- Cuts a path after one base, if the base is a directory above it. -/
def cutAfter? (path base : String) : Option Cut :=
  let base := forward base
  if base = "" ∨ base = path then none
  else ((asDirectory base.toList).isPrefixOf? path.toList).map fun rest => ⟨base, .ofList rest⟩

/-- The cut after the first base that allows one. -/
def firstCut? (path : String) (bases : List String) : Option Cut :=
  bases.findSome? (cutAfter? path)

/-- The path relative to the first base above it, or the path itself. -/
def relative (path : String) (bases : List String) : String :=
  match firstCut? path bases with
  | some cut => cut.rest
  | none => path

/-- The log lines of `relative`. -/
def relativeEvents (path : String) (bases : List String) : List Log.Event :=
  match firstCut? path bases with
  | some cut => [⟨.trace, "Relativized " ++ Text.quoted path ++ " against " ++
      Text.quoted cut.base ++ " -> " ++ Text.quoted cut.rest⟩]
  | none => []

/-- The file text of findings that belong to no file. -/
def internalFile : String := "<cppcheck>"

/-- The path as the report shows it, before the mark of the current directory. -/
def shownPath (path : String) (bases : List String) : String :=
  if isAbsolute (forward path) then relative (forward path) bases else forward path

/-- The file text of a finding. The mark of the current directory in front keeps viewers from
showing an empty directory for files at the top. -/
def reportPath (path : String) (bases : List String) : String :=
  if path = "" then internalFile else "./" ++ shownPath path bases

/-- The log lines of `reportPath`. -/
def reportPathEvents (path : String) (bases : List String) : List Log.Event :=
  if isAbsolute (forward path) then relativeEvents (forward path) bases else []

end InspectionFeed.Path
