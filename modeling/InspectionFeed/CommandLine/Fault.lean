/-
Everything that ends a run early, with its exit code and its wording.

Misuse of the command line has the code 2 and says how the command is used,
unless an option lacks or has too much of a value. The other codes tell
contradictory switches, faulty data, a missing file, a failed access and
faulty settings apart. A few causes are not foreseen; they have the code 1
and are told by whoever runs the program.
-/
import InspectionFeed.CommandLine.Help
import InspectionFeed.Console
import InspectionFeed.Log.Threshold
import InspectionFeed.Record.Reading
import InspectionFeed.Registry.Load
import InspectionFeed.Reporter.Basic
import InspectionFeed.Settings.Load

namespace InspectionFeed.CommandLine

/-! ## Paths among the arguments -/

/-- What a path should name. -/
inductive PathKind
  | file
  | directory
  deriving Repr, DecidableEq

/-- The word for what a path should name. -/
def PathKind.word : PathKind → String
  | .file => "File"
  | .directory => "Directory"

/-- Why a path is not as it should be. -/
inductive PathFault
  | missing
  | isDirectory
  | isFile
  | unreadable
  | unnameable
  deriving Repr, DecidableEq

/-- The wording of a path's fault. -/
def PathFault.text : PathFault → String
  | .missing => "does not exist"
  | .isDirectory => "is a directory"
  | .isFile => "is a file"
  | .unreadable => "is not readable"
  | .unnameable => Host.Cause.unnameable.text

/-! ## Misuse -/

inductive Misuse
  | arguments (fault : ArgumentFault)
  /-- There is no such command. Those of a similar name may be meant. -/
  | noCommand (name : String) (similar : List String)
  | path (parameter : String) (kind : PathKind) (path : String) (fault : PathFault)
  | extra (args : List String)
  deriving Repr, DecidableEq

namespace Misuse

/-- The complaint. -/
def message : Misuse → String
  | .arguments (.unknown name similar) =>
    "No such option " ++ Text.quoted name ++ "." ++ Text.suggestion similar
  | .arguments (.valueMissing name) => "Option " ++ Text.quoted name ++ " requires an argument."
  | .arguments (.valueUnwanted name) =>
    "Option " ++ Text.quoted name ++ " does not take a value."
  | .noCommand name similar =>
    "No such command " ++ Text.quoted name ++ "." ++ Text.suggestion similar
  | .path _ _ _ .unnameable => PathFault.unnameable.text
  | .path parameter kind given fault =>
    "Invalid value for " ++ Text.quoted parameter ++ ": " ++ kind.word ++ " " ++
      Text.quoted given ++ " " ++ fault.text ++ "."
  | .extra args =>
    "Got unexpected extra argument" ++ (if args.length = 1 then "" else "s") ++ " (" ++
      " ".intercalate args ++ ")"

/-- The complaint comes with the usage of the command. -/
def tellsUsage : Misuse → Bool
  | .arguments (.valueMissing _) => false
  | .arguments (.valueUnwanted _) => false
  | _ => true

end Misuse

/-! ## Faults of a run -/

/-- Why records cannot be converted. -/
inductive InputFault
  | host (fault : Host.Fault)
  | undecodable (fault : Text.Utf8.Fault)
  | record (fault : ReadFault)
  | report (fault : Reporter.Fault)
  /-- A message holds half of a surrogate pair. -/
  | unencodable (fault : Text.EncodingFault)
  deriving Repr, DecidableEq

/-- The wording of an input's fault. -/
def InputFault.message : InputFault → String
  | .host ⟨.noEntry, _⟩ => "no such file"
  | .host fault => fault.message
  | .undecodable fault => fault.message
  | .record fault => fault.message
  | .report fault => fault.message
  | .unencodable fault => fault.message

/-- Why a run ends early. -/
inductive Fault
  | misuse (topic : Topic) (misuse : Misuse)
  | contradiction
  | threshold (fault : Text.NumeralFault)
  | settings (fault : Settings.Fault)
  | registry (fault : Registry.Fault)
  | input (source : String) (fault : InputFault)
  | announcement (fault : Reporter.Fault)
  deriving Repr, DecidableEq

namespace Fault

/-- The exit code of a fault that is foreseen. -/
def code? : Fault → Option Nat
  | .misuse _ (.path _ _ _ .unnameable) => none
  | .misuse _ _ => some 2
  | .contradiction => some 64
  | .threshold _ => none
  | .settings (.host _) => none
  | .settings (.document (.undecodable _)) => none
  | .settings (.document .unnameable) => none
  | .settings (.document (.content _ f)) => if f = .malformed then some 78 else none
  | .settings _ => some 78
  | .registry (.document (.content _ f)) => if f = .malformed then some 65 else none
  | .registry _ => some 65
  | .input _ (.host ⟨.noEntry, _⟩) => some 66
  | .input _ (.host _) => some 74
  | .input _ (.undecodable _) => some 65
  | .input _ (.record (.longNumber _)) => none
  | .input _ (.record (.tooDeep _)) => none
  | .input _ (.record (.line _ _)) => some 65
  | .input _ (.report .unprintable) => none
  | .input _ (.report _) => some 74
  | .input _ (.unencodable _) => none
  | .announcement _ => none

/-- The exit code. -/
def code (f : Fault) : Nat := f.code?.getD 1

/-- The wording. -/
def message : Fault → String
  | .misuse _ m => m.message
  | .contradiction => Log.contradictionMessage
  | .threshold fault => fault.message
  | .settings fault => fault.message
  | .registry fault => fault.message
  | .input _ (.record (.longNumber digits)) => (ReadFault.longNumber digits).message
  | .input _ (.record (.tooDeep nesting)) => nesting.tooDeepMessage
  | .input _ (.report .unprintable) => Reporter.Fault.unprintable.message
  | .input _ (.unencodable fault) => fault.message
  | .input source fault => source ++ ": " ++ fault.message
  | .announcement fault => fault.message

/-- How a command is used, and where to read more. -/
def usageLines (t : Topic) (program : String) : List String :=
  [t.usage program, "Try '" ++ t.path program ++ " --help' for help.", ""]

/-- What a foreseen fault writes for the user. -/
def text (f : Fault) (program : String) : String :=
  let usage := match f with
    | .misuse t m => if m.tellsUsage then usageLines t program else []
    | _ => []
  String.join ((usage ++ ["Error: " ++ f.message]).map (Console.print ⟨false⟩ · true))

end Fault

end InspectionFeed.CommandLine
