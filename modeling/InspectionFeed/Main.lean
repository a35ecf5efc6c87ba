/-
The program on a real host: looks at the paths that the run may ask about,
reads the standard input if the run may want it, and writes what comes out.
-/
import InspectionFeed.CommandLine.Run

namespace InspectionFeed.CommandLine

/-- The number and the wording that the system gave for a failure. -/
def numbered? : IO.Error → Option (Nat × String)
  | .alreadyExists _ n text | .interrupted _ n text | .noFileOrDirectory _ n text
  | .invalidArgument _ n text | .permissionDenied _ n text | .resourceExhausted _ n text
  | .inappropriateType _ n text | .noSuchThing _ n text => some (n.toNat, text)
  | .otherError n text | .resourceBusy n text | .resourceVanished n text
  | .unsupportedOperation n text | .hardwareFault n text | .unsatisfiedConstraints n text
  | .illegalOperation n text | .protocolError n text | .timeExpired n text => some (n.toNat, text)
  | .unexpectedEof | .userError _ => none

/-- The cause of a failure of the system. -/
def causeOf (number : Nat) (text : String) : Host.Cause :=
  match number with
  | 2 => .noEntry
  | 5 => .inputOutput
  | 20 => .notDirectory
  | 21 => .isDirectory
  | 36 => .nameTooLong
  | n => .other n text

/-- What stands at a path that may not be opened. If it leads somewhere it can be resolved, and
only from a directory it can go on. -/
def lookAtClosed (path : String) (cause : Host.Cause) : IO Host.Look := do
  try
    let _ ← IO.FS.realPath path
  catch _ => return .absent cause
  try
    let _ ← IO.FS.readBinFile (path ++ "/")
    return .directory
  catch e => return if (numbered? e).map Prod.fst = some 20 then .closed cause else .directory

/-- What stands at a path of the real host. -/
def lookAt (path : String) : IO Host.Look := do
  if !Host.isNameable path then return .absent .unnameable
  try
    return .file (← IO.FS.readBinFile path).toList
  catch e =>
    match numbered? e with
    | none => throw e
    | some (number, text) =>
      match causeOf number text with
      | .isDirectory => return .directory
      | .inputOutput => return .unreadable
      | cause => if number = 13 then lookAtClosed path cause else return .absent cause

/-- The real host, as far as a run with these arguments can see it. -/
def realHost (args : List String) : IO Host := do
  let directory := HostPath.ofString (toString (← IO.currentDir))
  let looks ← (pathsOf directory args).mapM fun path => return (path, ← lookAt path)
  return ⟨directory, fun path => (looks.lookup path).getD (.absent .noEntry)⟩

/-- Reads a stream to its end. -/
partial def readAll (stream : IO.FS.Stream) (read : ByteArray) : IO ByteArray := do
  let block ← stream.read 65536
  if block.isEmpty then return read else readAll stream (read ++ block)

/-- Runs the program and writes what it gives. -/
def runProgram (program : String) (args : List String) : IO UInt32 := do
  let host ← realHost args
  let input ← if readsInput args then readAll (← IO.getStdin) .empty else pure .empty
  let outcome := run host ⟨program, args, ← IO.getEnv Log.thresholdVariable, input.toList⟩
  let out ← IO.getStdout
  out.putStr outcome.output
  out.flush
  let err ← IO.getStderr
  err.putStr (outcome.errors program)
  match outcome.fault with
  | some fault => if fault.code?.isNone then err.putStr (fault.message ++ "\n")
  | none => pure ()
  return outcome.code.toUInt32

end InspectionFeed.CommandLine

/-- The command line. -/
def main (args : List String) : IO UInt32 :=
  InspectionFeed.CommandLine.runProgram "tcinspect" args
