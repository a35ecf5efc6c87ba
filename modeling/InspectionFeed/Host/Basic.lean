/-
What the program sees of its host: the directory it runs in, and what stands
at a path when it looks there. Nothing is changed on the host, so one answer
for each path is all there is to know.
-/
import InspectionFeed.Path.Name
import InspectionFeed.Text.Quoted

namespace InspectionFeed

namespace Host

/-- Why an access to a path fails. -/
inductive Cause
  | noEntry
  /-- The path goes on below something that is no directory. -/
  | notDirectory
  | isDirectory
  | nameTooLong
  | inputOutput
  /-- The path holds the null character, and so cannot name anything. -/
  | unnameable
  | other (number : Nat) (text : String)
  deriving Repr, DecidableEq

/-- The number of a cause, where the system gave one. -/
def Cause.number? : Cause → Option Nat
  | .noEntry => some 2
  | .inputOutput => some 5
  | .notDirectory => some 20
  | .isDirectory => some 21
  | .nameTooLong => some 36
  | .unnameable => none
  | .other number _ => some number

/-- The wording of a cause. -/
def Cause.text : Cause → String
  | .noEntry => "No such file or directory"
  | .inputOutput => "Input/output error"
  | .notDirectory => "Not a directory"
  | .isDirectory => "Is a directory"
  | .nameTooLong => "File name too long"
  | .unnameable => "embedded null byte"
  | .other _ text => text

/-- There is nothing to be found, so that looking is no failure. The numbers are those of a
descriptor that is not open and of links that lead round in a circle. -/
def Cause.leadsNowhere : Cause → Bool
  | .noEntry => true
  | .notDirectory => true
  | .unnameable => true
  | .other number _ => number = 9 || number = 40
  | _ => false

/-- A failed access; a failure while reading names no path. -/
structure Fault where
  cause : Cause
  path : Option String
  deriving Repr, DecidableEq

/-- The wording of a failed access. An access that the system was never asked for names no
path. -/
def Fault.message (f : Fault) : String :=
  match f.cause.number? with
  | none => f.cause.text
  | some number =>
    "[Errno " ++ toString number ++ "] " ++ f.cause.text ++
      match f.path with
      | some path => ": " ++ Text.quoted path
      | none => ""

/-- A path that can name something: it does not hold the null character, which would end it. -/
def isNameable (path : String) : Bool := !path.toList.contains '\x00'

/-- What stands at a path. -/
inductive Look
  | file (content : List UInt8)
  /-- A file that cannot be opened. -/
  | closed (cause : Cause)
  /-- A file that can be opened but not read. -/
  | unreadable
  | directory
  /-- Something else that can be read. -/
  | device (content : List UInt8)
  /-- Nothing that can be reached. -/
  | absent (cause : Cause)
  deriving Repr, DecidableEq

end Host

/-- The host of a run. -/
structure Host where
  /-- The working directory, an absolute path. -/
  directory : HostPath
  look : String → Host.Look

namespace Host

/-- Opens a file and reads it. The failure tells whether the file was opened. -/
def read (h : Host) (path : HostPath) : Except Fault (List UInt8) :=
  match h.look path.text with
  | .file content => .ok content
  | .device content => .ok content
  | .closed cause => .error ⟨cause, some path.text⟩
  | .unreadable => .error ⟨.inputOutput, none⟩
  | .directory => .error ⟨.isDirectory, some path.text⟩
  | .absent cause => .error ⟨cause, some path.text⟩

/-- What a failure to look at a path tells: a path that leads nowhere names nothing, any other
failure is reported. -/
def absence (path : HostPath) (cause : Cause) : Except Fault Bool :=
  if cause.leadsNowhere then .ok false else .error ⟨cause, some path.text⟩

/-- The path names a regular file. -/
def isFile (h : Host) (path : HostPath) : Except Fault Bool :=
  match h.look path.text with
  | .file _ => .ok true
  | .closed _ => .ok true
  | .unreadable => .ok true
  | .directory => .ok false
  | .device _ => .ok false
  | .absent cause => absence path cause

/-- The path names something. -/
def isThere (h : Host) (path : HostPath) : Except Fault Bool :=
  match h.look path.text with
  | .absent cause => absence path cause
  | _ => .ok true

end Host

end InspectionFeed
