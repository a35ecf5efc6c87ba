/-
A run of the program: from its arguments, its environment, its input and the
files of its host to what it writes and how it ends.

The options of the program are read first, then the command is looked up,
then the threshold of log lines is settled, and only then are the options of
the command read. Help wins over whatever the other options say, but not over
options that cannot be read.
-/
import InspectionFeed.CommandLine.Work
import InspectionFeed.Log.Layout

namespace InspectionFeed.CommandLine

/-- What a run gives. -/
structure Outcome where
  output : String
  shown : List Log.Event
  fault : Option Fault
  deriving Repr, DecidableEq

namespace Outcome

/-- The outcome that only writes. -/
def write (output : String) : Outcome := ⟨output, [], none⟩

/-- The outcome that only fails. -/
def fail (fault : Fault) : Outcome := ⟨"", [], some fault⟩

/-- The exit code. -/
def code (o : Outcome) : Nat := (o.fault.map Fault.code).getD 0

/-- What is written to the error stream: the log lines, then a fault that is foreseen. The stream
takes every text. -/
def errors (o : Outcome) (program : String) : String :=
  let complaint := match o.fault with
    | some fault => if fault.code?.isSome then fault.text program else ""
    | none => ""
  Text.escapeHalves (String.join (o.shown.map (·.line ++ "\n")) ++ complaint)

end Outcome

/-! ## The program -/

/-- The help on a topic as it is written. -/
def helpText (t : Topic) (program : String) : String := t.help program ++ "\n"

/-- What is written in front of help where no command is given. -/
def hint : String := "Hint: use 'tcinspect emit [INPUT]' to convert analyzer results.\n\n"

/-- The command of a name. A name that looks like an option is read as one of the program first,
which may give help or a complaint of its own. -/
def command (i : Invocation) (name : String) (args : List String) : Except Outcome Command :=
  match Command.ofName? name with
  | some c => .ok c
  | none =>
    let again := if name.toList.head? = some '-' then Topic.program.readArguments (name :: args)
      else .ok ⟨[], []⟩
    match again with
    | .error fault => .error (.fail (.misuse .program (.arguments fault)))
    | .ok a =>
      if .help ∈ a.said then .error (.write (helpText .program i.program))
      else .error (.fail (.misuse .program
        (.noCommand name (Text.closeNames name (Command.all.map Command.name)))))

/-- The threshold of log lines for a run, with the log line about it. -/
def settleThreshold (i : Invocation) (said : List Use) :
    Except Fault (Int × Log.Event) :=
  match Log.levelOfCounts? (said.count .more) (said.count .fewer) with
  | none => .error .contradiction
  | some level =>
    match Log.thresholdOfVariable i.environment with
    | .error fault => .error (.threshold fault)
    | .ok given =>
      let n := given.getD level.number
      .ok (n, ⟨.debug, "CLI logging level: " ++ toString n ++ " (env override: " ++
        (Value.bool given.isSome).literal ++ ")"⟩)

/-- Reads the arguments of a command and runs it. -/
def runCommand (h : Host) (i : Invocation) (c : Command) (args : List String) : Work :=
  let fail (m : Misuse) : Work := ⟨"", [], some (.misuse (.command c) m)⟩
  match (Topic.command c).readArguments args with
  | .error fault => fail (.arguments fault)
  | .ok a =>
    if .help ∈ a.said then ⟨helpText (.command c) i.program, [], none⟩
    else match misuse? h c a with
      | some m => fail m
      | none => c.run h i a

/-- Runs the program from the point where its own options are read. -/
def runWith (i : Invocation) (said : List Use) (work : Work) : Outcome :=
  match settleThreshold i said with
  | .error fault => .fail fault
  | .ok (threshold, event) =>
    ⟨work.output, Log.shown threshold (event :: work.events), work.fault⟩

/-- Runs the program. -/
def run (h : Host) (i : Invocation) : Outcome :=
  match Topic.program.readArguments i.args with
  | .error fault => .fail (.misuse .program (.arguments fault))
  | .ok a =>
    if .help ∈ a.said then .write (helpText .program i.program)
    else match a.others with
      | [] => runWith i a.said ⟨hint ++ helpText .program i.program, [], none⟩
      | name :: args =>
        match command i name args with
        | .error outcome => outcome
        | .ok c => runWith i a.said (runCommand h i c args)

/-! ## What a run asks of its host -/

/-- All paths that a run may look at: each argument, each value after an equals sign, both in
normal form too, and the files of settings in the working directory. -/
def pathsOf (directory : HostPath) (args : List String) : List String :=
  let given := args.flatMap fun arg => arg :: (splitValue arg.toList).2.toList
  given ++ given.map (fun path => (HostPath.ofString path).text) ++
    Settings.fileNames.map fun name => (directory.child name).text

/-- A run with these arguments may read its standard input. -/
def readsInput (args : List String) : Bool :=
  match Topic.program.readArguments args with
  | .ok ⟨said, name :: rest⟩ =>
    decide (.help ∉ said) && Command.ofName? name == some .emit &&
      match (Topic.command .emit).readArguments rest with
      | .ok a => decide (.help ∉ a.said) && a.others.head?.getD standardInput == standardInput
      | .error _ => false
  | _ => false

end InspectionFeed.CommandLine
