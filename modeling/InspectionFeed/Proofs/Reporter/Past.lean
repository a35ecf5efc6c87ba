/-
What is on a stream already has no say in what happens next. On top of any past
a reporter takes the steps that it takes on an empty stream (`steps_atop`), so
calls on two streams of the same plan differ in nothing but what was there
before (`steps_alike`).
-/
import InspectionFeed.Proofs.Reporter.Failure
import Mathlib.Data.List.Forall2

namespace InspectionFeed

/-! ## Streams -/

namespace Stream

/-- The stream as it would be, had all that is on another one been written before. -/
def atop (s past : Stream) : Stream :=
  ⟨s.written ++ past.written, past.flushes + s.flushes, s.failingWrites, s.failingFlushes⟩

/-- The same stream, with another fate of its next writes and flushes. -/
def replan (s : Stream) (writes flushes : List Bool) : Stream :=
  { s with failingWrites := writes, failingFlushes := flushes }

variable (s past : Stream)

@[simp] theorem lines_atop : (s.atop past).lines = past.lines ++ s.lines := by
  simp [atop, lines]

theorem flush_atop : (s.atop past).flush = (s.flush.1.atop past, s.flush.2) := by
  unfold flush
  by_cases h : s.failingFlushes.head? = some true
  · rw [if_pos h, if_pos (show (s.atop past).failingFlushes.head? = some true from h)]
    rfl
  · rw [if_neg h, if_neg (show (s.atop past).failingFlushes.head? ≠ some true from h)]
    rfl

theorem putLine_atop (line : String) :
    (s.atop past).putLine line = ((s.putLine line).1.atop past, (s.putLine line).2) := by
  unfold putLine
  by_cases h : s.failingWrites.head? = some true
  · rw [if_pos h, if_pos (show (s.atop past).failingWrites.head? = some true from h)]
    rfl
  · rw [if_neg h, if_neg (show (s.atop past).failingWrites.head? ≠ some true from h)]
    exact flush_atop { s with
      written := line :: s.written
      failingWrites := s.failingWrites.tail } past

end Stream

/-! ## Announcements -/

namespace Announcement

def atop (a : Announcement) (past : Stream) : Announcement :=
  { a with stream := a.stream.atop past }

theorem accept_atop (a : Announcement) (past : Stream) (x : Sent) :
    (a.atop past).accept x = (a.accept x).atop past := by
  obtain ⟨stream, detailed, count, logged, stop⟩ := a
  cases stop with
  | some fault => rfl
  | none =>
    cases x with
    | text text => rfl
    | description d =>
      have hput := stream.putLine_atop past (d.announce detailed).line
      rcases hp : stream.putLine (d.announce detailed).line with ⟨stream', fault | ⟨⟩⟩
      · rw [hp] at hput
        rw [accept_error hp]
        exact accept_error hput
      · rw [hp] at hput
        rw [accept_ok hp]
        exact accept_ok hput

theorem acceptAll_atop (xs : List Sent) (a : Announcement) (past : Stream) :
    xs.foldl accept (a.atop past) = (xs.foldl accept a).atop past := by
  induction xs generalizing a with
  | nil => rfl
  | cons x xs ih => rw [List.foldl_cons, accept_atop, ih, List.foldl_cons]

theorem ask_atop (a : Announcement) (past : Stream) (p : Provider) :
    (a.atop past).ask p = (a.ask p).atop past := by
  unfold ask
  rw [acceptAll_atop]
  dsimp only [atop]
  split
  · rfl
  · rfl

theorem askAll_atop (ps : List Provider) (a : Announcement) (past : Stream) :
    (a.atop past).askAll ps = (a.askAll ps).atop past := by
  unfold askAll
  induction ps generalizing a with
  | nil => rfl
  | cons p ps ih => rw [List.foldl_cons, ask_atop, ih, List.foldl_cons]

end Announcement

/-! ## Reporters -/

namespace Reporter

def atop (r : Reporter) (past : Stream) : Reporter := r.onto (r.stream.atop past)

def Reply.atop {α : Type} (x : Reply α) (past : Stream) : Reply α :=
  ⟨x.reporter.atop past, x.events, x.result⟩

variable (r : Reporter) (past : Stream)

theorem Reply.atop_mk {α : Type} (events : List Log.Event) (result : Except Fault α) :
    Reply.atop ⟨r, events, result⟩ past = ⟨r.atop past, events, result⟩ := rfl

theorem write_atop (m : Message) :
    (r.atop past).write m = ((r.write m).1.atop past, (r.write m).2) := by
  show ({ r.atop past with stream := ((r.stream.atop past).putLine m.line).1 },
    ((r.stream.atop past).putLine m.line).2.mapError Fault.ofStream) = _
  rw [Stream.putLine_atop]
  rfl

theorem plain_atop (text : String) : (r.atop past).plain text = (r.plain text).atop past := by
  unfold plain
  rw [write_atop]
  rfl

theorem progress_atop (subject stage : String) :
    (r.atop past).progress subject stage = (r.progress subject stage).atop past := by
  unfold progress
  by_cases h : r.lastProgress = some (subject, stage)
  · rw [if_pos h, if_pos (show (r.atop past).lastProgress = _ from h)]
    rfl
  · rw [if_neg h, if_neg (show (r.atop past).lastProgress ≠ _ from h)]
    have hwrite := write_atop { r with lastProgress := some (subject, stage) } past
      (.progress subject stage)
    exact congrArg (fun w : Reporter × _ => Reply.mk w.1 [] w.2) hwrite

/-- The reporter once it has noted a fingerprint. -/
def noting (r : Reporter) (key : String) : Reporter := { r with seen := r.seen.insert key }

/-- A new finding is reported as its write tells: it counts if all went well. -/
theorem diagnostic_of_write {d : Diagnostic} {key : String} {pairs : List (String × String)}
    {r' : Reporter} {result : Except Fault Unit} (hf : d.fingerprint? = some key)
    (hpairs : attributes? r.settings d = some pairs) (h : r.seen.contains key = false)
    (hw : (r.noting key).write (.inspection pairs) = (r', result)) :
    r.diagnostic d =
      ⟨{ r' with emitted := r'.emitted + if result = .ok () then 1 else 0 },
        attributeEvents r.settings d, result⟩ := by
  rw [noting] at hw
  simp only [diagnostic, hf, h, Bool.false_eq_true, if_false, hpairs, hw]
  rcases result with fault | ⟨⟩
  · rfl
  · rfl

theorem diagnostic_atop (d : Diagnostic) :
    (r.atop past).diagnostic d = (r.diagnostic d).atop past := by
  cases r.findingCase d with
  | unprintable hp _ =>
    rw [diagnostic_unprintable hp, diagnostic_unprintable hp]
    rfl
  | @known key hf hk _ _ =>
    have hatop : (r.atop past).seen.contains key = true := hk
    simp only [diagnostic, hf, if_pos hk, if_pos hatop]
    rfl
  | @new key pairs hf hk hpairs _ _ _ =>
    have hatop : ((r.atop past).noting key).write (.inspection pairs) = _ :=
      write_atop (r.noting key) past (.inspection pairs)
    rw [diagnostic_of_write r hf hpairs hk rfl, Reply.atop_mk]
    exact diagnostic_of_write (r.atop past) hf hpairs hk hatop

theorem announce_atop (ps : List Provider) :
    (r.atop past).announce ps = (r.announce ps).atop past := by
  have hall : (Announcement.start (r.atop past).stream (r.atop past).settings.verbose).askAll ps =
      ((Announcement.start r.stream r.settings.verbose).askAll ps).atop past :=
    Announcement.askAll_atop ps (.start r.stream r.settings.verbose) past
  unfold announce
  dsimp only
  rw [hall]
  rfl

/-- A call does the same on top of any past. -/
theorem perform_atop (c : Call) : (r.atop past).perform c = (r.perform c).atop past := by
  cases c with
  | plain text => rw [perform, plain_atop]; rfl
  | progress subject stage value => rw [perform, progress_atop]; rfl
  | diagnostic d => rw [perform, diagnostic_atop]; rfl
  | announce ps => rw [perform, announce_atop]; rfl

end Reporter

/-! ## Runs -/

namespace Step

def atop (t : Step) (past : Stream) : Step := ⟨t.before.atop past, t.call⟩

/-- Two steps differ in nothing but what was on their streams before. -/
structure Alike (t t' : Step) : Prop where
  call_eq : t'.call = t.call
  result_eq : t'.reply.result = t.reply.result
  events_eq : t'.reply.events = t.reply.events
  lines_eq : t'.lines = t.lines
  after_eq : t'.after = t.after.onto t'.after.stream

variable (t : Step) (past : Stream)

theorem reply_atop : (t.atop past).reply = t.reply.atop past :=
  t.before.perform_atop past t.call

theorem lines_atop : (t.atop past).lines = t.lines := by
  show (t.atop past).reply.reporter.stream.lines.drop
    (t.before.stream.atop past).lines.length = _
  rw [reply_atop]
  show (t.after.stream.atop past).lines.drop (t.before.stream.atop past).lines.length = _
  rw [Stream.lines_atop, Stream.lines_atop, List.length_append, List.drop_append,
    List.drop_eq_nil_of_le (by omega), List.nil_append, Nat.add_sub_cancel_left]
  rfl

theorem alike_atop (past' : Stream) : Alike (t.atop past) (t.atop past') where
  call_eq := rfl
  result_eq := by rw [reply_atop, reply_atop]; rfl
  events_eq := by rw [reply_atop, reply_atop]; rfl
  lines_eq := by rw [lines_atop, lines_atop]
  after_eq := by rw [after, after, reply_atop, reply_atop]; rfl

end Step

namespace Reporter

theorem steps_atop (calls : List Call) (r : Reporter) (past : Stream) :
    (r.atop past).steps calls = (r.steps calls).map (·.atop past) := by
  induction calls generalizing r with
  | nil => rfl
  | cons c cs ih =>
    rw [steps, steps, perform_atop, List.map_cons]
    exact congrArg (_ :: ·) (ih (r.perform c).reporter)

/-- Calls make alike steps on two streams of the same plan. -/
theorem steps_alike (r : Reporter) (s s' : Stream) (writes flushes : List Bool)
    (calls : List Call) :
    List.Forall₂ Step.Alike ((r.onto (s.replan writes flushes)).steps calls)
      ((r.onto (s'.replan writes flushes)).steps calls) := by
  have hbegin (s : Stream) : r.onto (s.replan writes flushes) =
      (r.onto (.planned writes flushes)).atop s := rfl
  rw [hbegin, hbegin, steps_atop, steps_atop, List.forall₂_map_left_iff, List.forall₂_map_right_iff,
    List.forall₂_same]
  exact fun t _ => t.alike_atop s s'

end Reporter

end InspectionFeed
