/-
What the commands do, once their arguments are known to be in order: settle
the settings, then convert records, announce or list kinds, or show the
version. Whatever was written before a fault stays written.
-/
import InspectionFeed.CommandLine.Checks
import InspectionFeed.Reporter.Conversion
import InspectionFeed.Text.Lines

namespace InspectionFeed.CommandLine

/-- What the program is called with. -/
structure Invocation where
  program : String
  args : List String
  environment : Option String
  input : List UInt8

/-! ## Settings -/

/-- The files of settings that were asked for. Without any, none are looked for if that was asked
for. -/
def configFiles (said : List Use) : Option (List HostPath) :=
  let files := said.filterMap fun
    | .config path => some (HostPath.ofString path)
    | _ => none
  if files ≠ [] then some files
  else if .noConfig ∈ said then some []
  else none

/-- The settings that were asked for; of two contrary options the last one holds. -/
def overrides (said : List Use) : Settings.Overrides where
  verbose := said.reverse.findSome? fun
    | .detailed flag => some flag
    | _ => none
  basePaths := some (said.filterMap fun
    | .basePath path => some path
    | _ => none)

/-- The log line about the settings that were asked for. -/
def requestEvent (o : Settings.Overrides) (files : Option (List HostPath)) : Log.Event :=
  let verbose := (o.verbose.map Value.bool).getD .null
  let paths : Value := match o.basePaths with
    | some (path :: paths) => .list ((path :: paths).map .str)
    | _ => .null
  ⟨.debug, "CLI settings overrides: " ++
    (Value.dict [(Settings.verboseKey, verbose), (Settings.basePathsKey, paths)]).literal ++
    " (config files: " ++
    (match files with
      | some files => textListLiteral (files.map HostPath.text)
      | none => Value.null.literal) ++ ")"⟩

def settings (h : Host) (said : List Use) : Logged Fault Settings := do
  let files := configFiles said
  let overrides := overrides said
  .emit [requestEvent overrides files]
  (Settings.load h files (some overrides) h.directory).mapError .settings

/-! ## Commands -/

/-- What a command writes, with its log lines and the fault that ended it. -/
structure Work where
  output : String
  events : List Log.Event
  fault : Option Fault

/-- Work on the result of a step. A step that fails ends the work. -/
def Work.after {α : Type} (step : Logged Fault α) (work : α → Work) : Work :=
  match step with
  | ⟨events, .error fault⟩ => ⟨"", events, some fault⟩
  | ⟨events, .ok a⟩ => { work a with events := events ++ (work a).events }

section After

variable {α : Type} {step : Logged Fault α}

/-- Nothing is written after a step that fails. -/
theorem Work.after_of_error {fault : Fault} (hs : step.result = .error fault) (work : α → Work) :
    Work.after step work = ⟨"", step.events, some fault⟩ := by
  obtain ⟨events, result⟩ := step
  subst hs
  rfl

end After

/-- The log line at the end of a conversion. -/
def processedEvent (c : Conversion) : Log.Event :=
  ⟨.info, "Processed " ++ toString c.count ++ " record(s): " ++ toString c.reporter.emitted ++
    " inspection(s) emitted, " ++ toString c.reporter.suppressed ++ " duplicate(s) suppressed"⟩

/-- The line that was written and flushed last, if there is a new one. -/
def newLine? (before after : Stream) : Option String :=
  if after.flushes = before.flushes then none else after.written.head?

/-- Converts lines in order for an output that is encoded. A message that cannot be encoded is not
written, and ends the conversion. -/
def convertLines (c : Conversion) : List String → Conversion × Option Text.EncodingFault
  | [] => (c, none)
  | line :: lines =>
    let next := c.push line
    match (newLine? c.reporter.stream next.reporter.stream).bind Text.encodingFault? with
    | some fault => ({ next with reporter := c.reporter }, some fault)
    | none => convertLines next lines

/-- Converts the records of an input. Lines that are complete before bytes that are not UTF-8
are converted. -/
def convert (settings : Settings) (source : String) (bytes : List UInt8) : Work :=
  let (chars, undecodable) := Text.Utf8.decodeBlocks bytes
  let lines := if undecodable.isSome then Text.endedLinesOf chars else Text.linesOf chars
  let (c, unencodable) := convertLines (.start (.new settings .empty)) lines
  let fault : Option InputFault := match unencodable, c.stop, undecodable with
    | some fault, _, _ => some (.unencodable fault)
    | none, some (.inl fault), _ => some (.record fault)
    | none, some (.inr fault), _ => some (.report fault)
    | none, none, some fault => some (.undecodable fault)
    | none, none, none => none
  { output := c.reporter.stream.text
    events := c.events ++ if fault.isNone then [processedEvent c] else []
    fault := fault.map (.input source) }

/-- The log line at the start of a conversion. -/
def readingEvent (source : String) : Log.Event := ⟨.debug, "Reading records from " ++ source⟩

/-- The input of a conversion. The log line tells that it could be opened. -/
def openInput (h : Host) (i : Invocation) (path : String) : Logged Fault (String × List UInt8) :=
  if path = standardInput then ⟨[readingEvent "<stdin>"], .ok ("<stdin>", i.input)⟩
  else match h.read (.ofString path) with
    | .ok bytes => ⟨[readingEvent path], .ok (path, bytes)⟩
    | .error fault =>
      ⟨if fault.path.isNone then [readingEvent path] else [], .error (.input path (.host fault))⟩

/-- Converts records. -/
def runEmit (h : Host) (i : Invocation) (a : Arguments Use) : Work :=
  .after (settings h a.said) fun settings =>
    .after (openInput h i (a.others.head?.getD standardInput)) fun (source, bytes) =>
      convert settings source bytes

/-- The lines that list providers. -/
def listing (r : Registry) : String :=
  String.join (r.summary.map fun (name, kinds) =>
    name ++ "\t" ++ ((kinds.map toString).getD "?") ++ "\n")

/-- Announces the kinds of all providers. -/
def announce (settings : Settings) (r : Registry) : Work :=
  let reply := (Reporter.new settings .empty).announce r.providers
  match reply.result with
  | .error fault => ⟨reply.reporter.stream.text, reply.events, some (.announcement fault)⟩
  | .ok count =>
    let event : Log.Event := ⟨.info, "Announced " ++ toString count ++
      " inspection type(s) from " ++ toString r.size ++ " provider(s)"⟩
    ⟨reply.reporter.stream.text, reply.events ++ [event], none⟩

/-- Announces or lists what catalogs hold. -/
def runInspectionTypes (h : Host) (a : Arguments Use) : Work :=
  .after (settings h a.said) fun settings =>
    .after ((Registry.load h (a.others.map .ofString)
        (decide (.noPreprocessor ∉ a.said))).mapError .registry) fun registry =>
      if .list ∈ a.said then ⟨listing registry, [], none⟩ else announce settings registry

def versionText : String := "0.1.0"

def Command.run (c : Command) (h : Host) (i : Invocation) (a : Arguments Use) : Work :=
  match c with
  | .emit => runEmit h i a
  | .inspectionTypes => runInspectionTypes h a
  | .version => ⟨versionText ++ "\n", [], none⟩

end InspectionFeed.CommandLine
