/-
Announcing kinds of findings: one service message for each description that
providers send, in order and as soon as it is sent. Other texts leave no
trace but a log line. A failure of the stream ends the announcement.
-/
import InspectionFeed.Catalog.Basic
import InspectionFeed.Log.Event
import InspectionFeed.Message.Basic
import InspectionFeed.Stream

namespace InspectionFeed

/-- What the category of a kind begins with. -/
def categoryStart : String := "cppcheck "

/-- The message that announces a kind. -/
def Description.announce (d : Description) (detailed : Bool) : Message :=
  .inspectionType [("id", d.kind), ("name", d.kind), ("description", d.text detailed),
    ("category", categoryStart ++ d.severity.displayName)]

/-- An announcement under way. -/
structure Announcement where
  stream : Stream
  detailed : Bool
  count : Nat
  /-- The log lines, newest first. -/
  logged : List Log.Event
  stop : Option Stream.Fault
  deriving Repr, DecidableEq

namespace Announcement

/-- Before the first provider. -/
def start (stream : Stream) (detailed : Bool) : Announcement := ⟨stream, detailed, 0, [], none⟩

/-- Takes what a provider sends, unless the announcement has ended. -/
def accept : Announcement → Sent → Announcement
  | ⟨stream, detailed, count, logged, some fault⟩, _ =>
    ⟨stream, detailed, count, logged, some fault⟩
  | ⟨stream, detailed, count, logged, none⟩, .text s =>
    let event :=
      ⟨.trace, "Ignoring plain text while describing diagnostics: " ++ Text.quoted s⟩
    ⟨stream, detailed, count, event :: logged, none⟩
  | ⟨stream, detailed, count, logged, none⟩, .description d =>
    match stream.putLine (d.announce detailed).line with
    | (stream, .ok ()) => ⟨stream, detailed, count + 1, logged, none⟩
    | (stream, .error fault) => ⟨stream, detailed, count, logged, some fault⟩

/-- Takes all that one provider sends. -/
def ask (a : Announcement) (p : Provider) : Announcement :=
  let b := p.sent.foldl accept a
  if b.stop.isSome then b
  else { b with logged :=
    ⟨.debug, "Provider " ++ p.name ++ " described " ++ toString (b.count - a.count) ++
      " diagnostic kinds"⟩ :: b.logged }

/-- Asks providers in order. -/
def askAll (a : Announcement) (ps : List Provider) : Announcement := ps.foldl ask a

end Announcement

end InspectionFeed
