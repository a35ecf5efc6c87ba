/-
Building settings from files and from what the caller overrides.

Files are layered in the order given. Where none are given, those in the
working directory are used, the project file first and so below the file of
settings. A file without settings adds no layer. Overrides come last, with
their base directories anchored to the working directory; an empty list of
them overrides nothing.
-/
import InspectionFeed.Settings.Table
import InspectionFeed.Toml.Document

namespace InspectionFeed

namespace Settings

/-- Why settings cannot be built. -/
inductive Fault
  | host (fault : Host.Fault)
  | document (fault : Document.Fault)
  | table (fault : TableFault)
  deriving Repr, DecidableEq

/-- The wording of a fault. -/
def Fault.message : Fault → String
  | .host fault => fault.message
  | .document fault => fault.message
  | .table fault => fault.message

/-- What a caller says over all files. -/
structure Overrides where
  verbose : Option Bool
  /-- Base directories, as they were given. -/
  basePaths : Option (List String)
  deriving Repr, DecidableEq

def Overrides.layer (o : Overrides) (directory : HostPath) : Layer where
  verbose := o.verbose
  basePaths := match o.basePaths with
    | some (path :: paths) => some ((path :: paths).map (Path.anchor directory.text))
    | _ => none
  configFiles := []

end Settings

def Layer.ofFile (h : Host) (path : HostPath) : Logged Settings.Fault (Option Layer) := do
  let document ← (Document.load h path).mapError .document
  match ← .lift ((Settings.tableOf path document).mapError .table) with
  | none =>
    .emit [⟨.debug, "No TCInspect settings in " ++ path.text⟩]
    return none
  | some t =>
    let directory := (path.parent.absoluteIn h.directory).text
    return some (← (Layer.ofTable t (some directory) (some path.text)).mapError .table)

namespace Settings

/-- The names that files in a directory are looked for by, the lowest layer first. -/
def fileNames : List String := [projectFile, settingsFile]

/-- The files of settings in a directory. -/
def filesIn (h : Host) (directory : HostPath) : Except Host.Fault (List HostPath) :=
  (fileNames.map directory.child).filterM h.isFile

/-- The files of settings in a directory, with the log line about them. -/
def discover (h : Host) (directory : HostPath) : Logged Host.Fault (List HostPath) := do
  let files ← .lift (filesIn h directory)
  .emit [⟨.debug, "Discovered config files in " ++ directory.text ++ ": " ++
    textListLiteral (files.map HostPath.text)⟩]
  return files

/-- Puts the layers of files over a layer. -/
def addFiles (h : Host) (below : Layer) : List HostPath → Logged Fault Layer
  | [] => return below
  | path :: paths => do
    match ← Layer.ofFile h path with
    | some above => addFiles h (below.merge above) paths
    | none => addFiles h below paths

/-- Builds settings from files, or from those in a directory, and from overrides. -/
def load (h : Host) (files : Option (List HostPath)) (overrides : Option Overrides)
    (directory : HostPath) : Logged Fault Settings := do
  let files ← match files with
    | some files => pure files
    | none => (discover h directory).mapError .host
  let layer ← addFiles h .empty files
  let layer := match overrides with
    | some o => layer.merge (o.layer directory)
    | none => layer
  .emit [⟨.debug, "Resolved settings: " ++ layer.freeze.literal⟩]
  return layer.freeze

end Settings

end InspectionFeed
