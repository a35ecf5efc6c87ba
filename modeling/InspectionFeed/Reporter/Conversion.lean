/-
Converting lines of records into a report. Each line is read and reported
before the next one is looked at, so a line that is no record leaves the
report of all lines before it. A conversion stops at the first failure, of
reading or of writing.
-/
import InspectionFeed.Record.Reading
import InspectionFeed.Reporter.Basic

namespace InspectionFeed

/-- Reports a record. -/
def Reporter.dispatch (r : Reporter) : Record → Reporter.Reply Unit
  | .diagnostic d => r.diagnostic d
  | .progress subject stage _ => r.progress subject stage
  | .message text => r.plain text

/-- A conversion under way. -/
structure Conversion where
  reporter : Reporter
  next : Nat
  count : Nat
  /-- The log lines, newest first. -/
  logged : List Log.Event
  stop : Option (ReadFault ⊕ Reporter.Fault)

namespace Conversion

/-- Before the first line. -/
def start (r : Reporter) : Conversion := ⟨r, 1, 0, [], none⟩

/-- Converts one more line, unless the conversion has stopped. -/
def push : Conversion → String → Conversion
  | ⟨reporter, next, count, logged, some stop⟩, _ => ⟨reporter, next, count, logged, some stop⟩
  | ⟨reporter, next, count, logged, none⟩, line =>
    if Text.isBlankText line then ⟨reporter, next + 1, count, logged, none⟩
    else match Record.ofLine next line with
      | ⟨events, .error fault⟩ =>
        ⟨reporter, next, count, events.reverse ++ logged, some (.inl fault)⟩
      | ⟨events, .ok record⟩ =>
        match reporter.dispatch record with
        | ⟨reporter, more, .ok ()⟩ =>
          ⟨reporter, next + 1, count + 1, more.reverse ++ (events.reverse ++ logged), none⟩
        | ⟨reporter, more, .error fault⟩ =>
          ⟨reporter, next, count, more.reverse ++ (events.reverse ++ logged), some (.inr fault)⟩

/-- Converts lines in order. -/
def pushAll (c : Conversion) (lines : List String) : Conversion := lines.foldl push c

/-- The log lines, in order. -/
def events (c : Conversion) : List Log.Event := c.logged.reverse

end Conversion

end InspectionFeed
