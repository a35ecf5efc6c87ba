/-
The reporter turns events of an analysis into service messages on a stream.

A step of progress is reported when its subject or stage differs from the
last one, a finding when its fingerprint is new. Both are noted before the
message is written, so a message that could not be written is not tried
again; a finding counts as emitted once its message is written and flushed.
A finding with a number that is too long to be printed cannot be reported,
and leaves no trace. Announcing kinds of findings uses the stream only.
-/
import InspectionFeed.Diagnostic.Fingerprint
import InspectionFeed.Path.Relative
import InspectionFeed.Reporter.Announcement
import InspectionFeed.Settings.Basic
import Std.Data.HashSet

namespace InspectionFeed

/-- A reporter and its stream. -/
structure Reporter where
  settings : Settings
  stream : Stream
  lastProgress : Option (String × String)
  seen : Std.HashSet String
  emitted : Nat
  suppressed : Nat

namespace Reporter

/-- Why a call gives no result. -/
inductive Fault
  /-- The finding holds a number that is too long to be printed. -/
  | unprintable
  | write
  | flush
  deriving Repr, DecidableEq

/-- The fault of a call that a failure of the stream ended. -/
def Fault.ofStream : Stream.Fault → Fault
  | .write => .write
  | .flush => .flush

/-- The wording of a fault. -/
def Fault.message : Fault → String
  | .unprintable => Text.unprintableMessage
  | .write => Stream.Fault.write.message
  | .flush => Stream.Fault.flush.message

/-- What a call to a reporter gives. -/
structure Reply (α : Type) where
  reporter : Reporter
  events : List Log.Event
  result : Except Fault α

/-- A new reporter on a stream. -/
def new (settings : Settings) (stream : Stream) : Reporter := ⟨settings, stream, none, ∅, 0, 0⟩

/-- Writes a message. -/
def write (r : Reporter) (m : Message) : Reporter × Except Fault Unit :=
  let (stream, result) := r.stream.putLine m.line
  ({ r with stream := stream }, result.mapError .ofStream)

/-- Reports a plain message. -/
def plain (r : Reporter) (text : String) : Reply Unit :=
  let (r, result) := r.write (.plain text)
  ⟨r, [], result⟩

/-- Reports a step of progress, unless it is the last one again. -/
def progress (r : Reporter) (subject stage : String) : Reply Unit :=
  if r.lastProgress = some (subject, stage) then
    ⟨r, [⟨.trace, "Suppressed repeated progress " ++ Text.quoted subject ++ "/" ++
      Text.quoted stage⟩], .ok ()⟩
  else
    let (r, result) :=
      { r with lastProgress := some (subject, stage) }.write (.progress subject stage)
    ⟨r, [], result⟩

/-- The file that a finding is reported for. -/
def fileOf (d : Diagnostic) : String :=
  match d.primary? with
  | some place => place.file
  | none => d.file0

/-- The attributes of line and column, for findings with a place. -/
def placePairs? (d : Diagnostic) : Option (List (String × String)) :=
  match d.primary? with
  | some place => do
    return [("line", ← Text.printed? place.line), ("column", ← Text.printed? place.column)]
  | none => some []

/-- The attribute of the weakness class, for findings with one. -/
def classPairs? (d : Diagnostic) : Option (List (String × String)) :=
  if d.cwe ≠ 0 then (Text.printed? d.cwe).map fun n => [("cwe", n)] else some []

/-- The attributes of the message about a finding. -/
def attributes? (s : Settings) (d : Diagnostic) : Option (List (String × String)) := do
  let place ← placePairs? d
  let file := Path.reportPath (fileOf d) s.basePaths
  let weakness ← classPairs? d
  return [("typeId", d.kind), ("message", d.text s.verbose)] ++ place ++ [("file", file)] ++
    weakness ++ (if d.inconclusive then [("inconclusive", "true")] else []) ++
    (match d.severity.attribute? with
    | some s => [("SEVERITY", s)]
    | none => [])

/-- The log lines of `attributes?`. -/
def attributeEvents (s : Settings) (d : Diagnostic) : List Log.Event :=
  Path.reportPathEvents (fileOf d) s.basePaths

/-- Reports a finding, unless it is known. What its message prints is in the fingerprint too. -/
def diagnostic (r : Reporter) (d : Diagnostic) : Reply Unit :=
  match d.fingerprint? with
  | none => ⟨r, [], .error .unprintable⟩
  | some key =>
    if r.seen.contains key then
      ⟨{ r with suppressed := r.suppressed + 1 },
        [⟨.trace, "Suppressed duplicate diagnostic " ++ d.kind⟩], .ok ()⟩
    else
      let noted := { r with seen := r.seen.insert key }
      match attributes? noted.settings d with
      | none => ⟨noted, [], .error .unprintable⟩
      | some pairs =>
        let events := attributeEvents noted.settings d
        match noted.write (.inspection pairs) with
        | (r, .ok ()) => ⟨{ r with emitted := r.emitted + 1 }, events, .ok ()⟩
        | (r, .error fault) => ⟨r, events, .error fault⟩

/-- Announces the kinds of findings of providers, and counts them. -/
def announce (r : Reporter) (providers : List Provider) : Reply Nat :=
  let a := (Announcement.start r.stream r.settings.verbose).askAll providers
  ⟨{ r with stream := a.stream }, a.logged.reverse, match a.stop with
    | some fault => .error (.ofStream fault)
    | none => .ok a.count⟩

end Reporter

end InspectionFeed
