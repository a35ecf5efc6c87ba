/-
Reading a layer of settings from the table of a document. A project file
keeps the settings in a table of their own, any other file is all settings.

Two keys are known. Any other key is named in a warning and has no effect;
the warnings come first, in the order of the keys by code point. Then base
directories are read, then the flag, and the first that has a wrong type ends
the reading.
-/
import InspectionFeed.Log.Event
import InspectionFeed.Path.Anchor
import InspectionFeed.Path.Name
import InspectionFeed.Settings.Basic

namespace InspectionFeed

namespace Settings

/-- Why a table gives no settings. -/
inductive TableFault
  | notTable (path : String)
  | notFlag (key kindName : String)
  | notTexts (key : String)
  deriving Repr, DecidableEq

/-- The wording of a fault. -/
def TableFault.message : TableFault → String
  | .notTable path => "[tool.tcinspect] in " ++ path ++ " must be a table"
  | .notFlag key kindName => "'" ++ key ++ "' must be a boolean, got " ++ kindName
  | .notTexts key => "'" ++ key ++ "' must be a list of strings"

/-- The name of project files. -/
def projectFile : String := "pyproject.toml"

/-- The name of files that hold nothing but settings. -/
def settingsFile : String := "tcinspect.toml"

/-- The settings in a project file's document. -/
def sectionOf (path : HostPath) (t : Table) : Except TableFault (Option Table) :=
  match t.get? "tool" with
  | some (.dict tool) =>
    match Table.present? tool "tcinspect" with
    | none => .ok none
    | some (.dict settings) => .ok (some settings)
    | some _ => .error (.notTable path.text)
  | _ => .ok none

/-- The settings in a file's document, if it has any. -/
def tableOf (path : HostPath) (t : Table) : Except TableFault (Option Table) :=
  if path.name = projectFile then sectionOf path t else .ok (some t)

/-- The flag at a key, if there is one. -/
def flag? (t : Table) (key : String) : Except TableFault (Option Bool) :=
  match t.present? key with
  | none => .ok none
  | some (.bool b) => .ok (some b)
  | some v => .error (.notFlag key v.kindName)

/-- The text of a value, if it is one. -/
def text? : Value → Option String
  | .str s => some s
  | _ => none

/-- The list of texts at a key, if there is one. -/
def texts? (t : Table) (key : String) : Except TableFault (Option (List String)) :=
  match t.present? key with
  | none => .ok none
  | some (.list vs) =>
    match vs.mapM text? with
    | some texts => .ok (some texts)
    | none => .error (.notTexts key)
  | some _ => .error (.notTexts key)

/-- The key of the flag for detailed texts. -/
def verboseKey : String := "verbose"

/-- The key of the base directories. -/
def basePathsKey : String := "base_paths"

/-- The keys that have no effect, sorted. -/
def unknownKeys (t : Table) : List String :=
  (t.keys.filter fun k => k ≠ verboseKey ∧ k ≠ basePathsKey).mergeSort fun a b => decide (a ≤ b)

/-- The warnings about keys that have no effect. -/
def unknownEvents (t : Table) (source : String) : List Log.Event :=
  (unknownKeys t).map fun k =>
    ⟨.warning, "Ignoring unknown configuration key '" ++ k ++ "' in " ++ source⟩

end Settings

namespace Layer

/-- The layer that a table says. Base directories are anchored to a directory if one is given;
a source that is not empty is kept. -/
def ofTable (t : Table) (directory : Option String) (source : Option String) :
    Logged Settings.TableFault Layer := do
  let source := source.filter (· ≠ "")
  .emit (Settings.unknownEvents t (source.getD "<table>"))
  .lift do
    let basePaths ← Settings.texts? t Settings.basePathsKey
    let verbose ← Settings.flag? t Settings.verboseKey
    let anchored := match directory with
      | some d => basePaths.map (·.map (Path.anchor d))
      | none => basePaths
    return ⟨verbose, anchored, source.toList⟩

end Layer

end InspectionFeed
