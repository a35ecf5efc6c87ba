/-
Settings of a report, and the layers they are built from.

A layer says something or nothing about each setting; the layer above wins
where it says something. The sources of all layers are kept in order. An
empty list of base directories says something, and so hides those below.
-/
import InspectionFeed.Value.Literal

namespace InspectionFeed

/-- The settings of a report. -/
structure Settings where
  verbose : Bool
  /-- Directories that absolute paths are made relative to, in order. -/
  basePaths : List String
  configFiles : List String
  deriving Repr, DecidableEq

namespace Settings

/-- What holds when nothing is set. -/
def default : Settings := ⟨false, [], []⟩

/-- The settings in one line, for the log. -/
def literal (s : Settings) : String :=
  "Settings(verbose=" ++ (Value.bool s.verbose).literal ++
    ", base_paths=" ++ textTupleLiteral s.basePaths ++
    ", config_files=" ++ textTupleLiteral s.configFiles ++ ")"

end Settings

structure Layer where
  verbose : Option Bool
  basePaths : Option (List String)
  configFiles : List String
  deriving Repr, DecidableEq

namespace Layer

/-- The layer that says nothing. -/
def empty : Layer := ⟨none, none, []⟩

/-- A layer with another one above it. -/
def merge (below above : Layer) : Layer where
  verbose := above.verbose.or below.verbose
  basePaths := above.basePaths.or below.basePaths
  configFiles := below.configFiles ++ above.configFiles

/-- The settings that a layer gives, with defaults where it says nothing. -/
def freeze (l : Layer) : Settings where
  verbose := l.verbose.getD false
  basePaths := l.basePaths.getD []
  configFiles := l.configFiles

end Layer

/-- The layer that says all of these settings. -/
def Settings.thaw (s : Settings) : Layer := ⟨some s.verbose, some s.basePaths, s.configFiles⟩

end InspectionFeed
