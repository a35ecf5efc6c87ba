/-
Checking the arguments of a command. Paths are checked in the order in which
the options stand, all paths of one option together; then come the other
arguments that are paths, and last the arguments that the command has no use
for.
-/
import InspectionFeed.CommandLine.Fault

namespace InspectionFeed.CommandLine

/-- Looks whether a path names an existing file. -/
def fileFault? (h : Host) (path : String) : Option PathFault :=
  match h.look path with
  | .absent .unnameable => some .unnameable
  | .absent _ => some .missing
  | .directory => some .isDirectory
  | .closed _ => some .unreadable
  | _ => none

/-- Looks whether a path may name an input: it may be missing. -/
def inputFault? (h : Host) (path : String) : Option PathFault :=
  match h.look path with
  | .absent .unnameable => some .unnameable
  | .directory => some .isDirectory
  | .closed _ => some .unreadable
  | _ => none

/-- Looks whether a path may name a directory: it may be missing. -/
def directoryFault? (h : Host) (path : String) : Option PathFault :=
  match h.look path with
  | .absent .unnameable => some .unnameable
  | .file _ => some .isFile
  | .closed _ => some .isFile
  | .unreadable => some .isFile
  | _ => none

/-- A path that belongs to a parameter. -/
structure Checked where
  parameter : String
  kind : PathKind
  path : String
  fault : Option PathFault

/-- The path that an option holds. -/
def checkUse (h : Host) : Use → Option Checked
  | .config path => some ⟨configOption, .file, path, fileFault? h path⟩
  | .basePath path => some ⟨basePathOption, .directory, path, directoryFault? h path⟩
  | _ => none

/-- Paths in the order in which they are checked: those of the parameter that comes first, then
the others. -/
def checkOrder (paths : List Checked) : List Checked :=
  match paths.head? with
  | none => []
  | some first =>
    paths.filter (·.parameter = first.parameter) ++ paths.filter (·.parameter ≠ first.parameter)

/-- The first path that is not as it should be. -/
def firstMisuse? (paths : List Checked) : Option Misuse :=
  paths.findSome? fun c => c.fault.map (Misuse.path c.parameter c.kind c.path)

/-- The path that stands for the standard input. -/
def standardInput : String := "-"

/-- The other arguments of a command that are paths. -/
def checkOther (h : Host) : Command → List String → List Checked
  | .emit, path :: _ =>
    if path = standardInput then [] else [⟨"[INPUT]", .file, path, inputFault? h path⟩]
  | .emit, [] => []
  | .inspectionTypes, paths =>
    paths.map fun path => ⟨"[CATALOG]...", .file, path, fileFault? h path⟩
  | .version, _ => []

/-- The arguments that a command has no use for. -/
def extras : Command → List String → List String
  | .emit, args => args.drop 1
  | .inspectionTypes, _ => []
  | .version, args => args

/-- What is wrong with arguments that could be read. -/
def misuse? (h : Host) (c : Command) (a : Arguments Use) : Option Misuse :=
  match firstMisuse? (checkOrder (a.said.filterMap (checkUse h)) ++ checkOther h c a.others) with
  | some m => some m
  | none => if extras c a.others = [] then none else some (.extra (extras c a.others))

end InspectionFeed.CommandLine
