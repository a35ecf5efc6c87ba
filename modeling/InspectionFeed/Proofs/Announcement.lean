/-
What an announcement puts on the stream, whatever fails: the messages of the
descriptions it was sent, in order, up to the first failure (`Told`). Texts
put nothing there. A failed write ends the announcement before its message,
a failed flush after it; where nothing fails all messages are there.
-/
import InspectionFeed.Proofs.Stream
import InspectionFeed.Reporter.Announcement

namespace InspectionFeed

/-- The message about what was sent, if it was a description. -/
def Sent.messages (detailed : Bool) : Sent → List Message
  | .text _ => []
  | .description d => [d.announce detailed]

/-- The messages about the kinds of a provider, in order. -/
def Provider.messages (detailed : Bool) (p : Provider) : List Message :=
  p.sent.flatMap (Sent.messages detailed)

namespace Announcement

variable {s stream stream' : Stream} {detailed : Bool} {count : Nat} {logged : List Log.Event}

theorem accept_ok {d : Description}
    (h : stream.putLine (d.announce detailed).line = (stream', .ok ())) :
    accept ⟨stream, detailed, count, logged, none⟩ (.description d) =
      ⟨stream', detailed, count + 1, logged, none⟩ := by
  simp only [accept, h]

theorem accept_error {d : Description} {fault : Stream.Fault}
    (h : stream.putLine (d.announce detailed).line = (stream', .error fault)) :
    accept ⟨stream, detailed, count, logged, none⟩ (.description d) =
      ⟨stream', detailed, count, logged, some fault⟩ := by
  simp only [accept, h]

theorem accept_logged (a : Announcement) (logged : List Log.Event) (x : Sent) :
    ∃ logged', { a with logged := logged }.accept x = { a.accept x with logged := logged' } := by
  obtain ⟨stream, detailed, count, logged₀, stop⟩ := a
  cases stop with
  | some fault => exact ⟨logged, rfl⟩
  | none =>
    cases x with
    | text text => exact ⟨_, rfl⟩
    | description d =>
      rcases hp : stream.putLine (d.announce detailed).line with ⟨stream', fault | ⟨⟩⟩
      · exact ⟨logged, by simp only [accept, hp]⟩
      · exact ⟨logged, by simp only [accept, hp]⟩

theorem acceptAll_logged (xs : List Sent) (a : Announcement) (logged : List Log.Event) :
    ∃ logged', xs.foldl accept { a with logged := logged } =
      { xs.foldl accept a with logged := logged' } := by
  induction xs generalizing a logged with
  | nil => exact ⟨logged, rfl⟩
  | cons x xs ih =>
    obtain ⟨logged', hx⟩ := accept_logged a logged x
    rw [List.foldl_cons, hx]
    exact ih (a.accept x) logged'

/-- Asking a provider takes all that it sends; the log line about it changes nothing else. -/
theorem ask_eq (a : Announcement) (p : Provider) :
    ∃ logged, a.ask p = { p.sent.foldl accept a with logged := logged } := by
  unfold ask
  dsimp only
  split
  · exact ⟨_, rfl⟩
  · exact ⟨_, rfl⟩

/-- Asking providers takes all that they send, as if one had sent it. -/
theorem askAll_eq (a : Announcement) (ps : List Provider) :
    ∃ logged, a.askAll ps =
      { (ps.flatMap Provider.sent).foldl accept a with logged := logged } := by
  unfold askAll
  induction ps generalizing a with
  | nil => exact ⟨a.logged, rfl⟩
  | cons p ps ih =>
    obtain ⟨logged, hask⟩ := ask_eq a p
    obtain ⟨logged', hrest⟩ := ih { p.sent.foldl accept a with logged := logged }
    obtain ⟨logged'', hall⟩ :=
      acceptAll_logged (ps.flatMap Provider.sent) (p.sent.foldl accept a) logged
    refine ⟨logged', ?_⟩
    rw [List.foldl_cons, hask, hrest, hall, List.flatMap_cons, List.foldl_append]

/-- How many messages are on the stream: one that was written but not flushed is not counted. -/
def reached (a : Announcement) : Nat := a.count + if a.stop = some .flush then 1 else 0

/-- An announcement that began on this stream and was sent what these messages are about. -/
structure Told (s : Stream) (detailed : Bool) (ms : List Message) (a : Announcement) : Prop where
  detailed_eq : a.detailed = detailed
  lines_eq : a.stream.lines = s.lines ++ (ms.take a.reached).map Message.line
  reached_le : a.reached ≤ ms.length
  running : a.stop = none → a.reached = ms.length

/-- All messages are on the stream. -/
theorem Told.of_lines {ms : List Message} {a : Announcement} (hd : a.detailed = detailed)
    (hl : a.stream.lines = s.lines ++ ms.map Message.line) (hr : a.reached = ms.length) :
    Told s detailed ms a :=
  ⟨hd, by rw [hl, hr, List.take_length], by omega, fun _ => hr⟩

theorem told_start (s : Stream) (detailed : Bool) : Told s detailed [] (start s detailed) :=
  ⟨rfl, by simp [start, reached], by simp [start, reached], fun _ => rfl⟩

theorem Told.stopped {s detailed ms a} (h : Told s detailed ms a) {fault : Stream.Fault}
    (hs : a.stop = some fault) (more : List Message) : Told s detailed (ms ++ more) a where
  detailed_eq := h.detailed_eq
  lines_eq := by rw [h.lines_eq, List.take_append_of_le_length h.reached_le]
  reached_le := by have := h.reached_le; simp only [List.length_append]; omega
  running := by rw [hs]; intro hn; cases hn

theorem Told.accept {s detailed ms a} (h : Told s detailed ms a) (x : Sent) :
    Told s detailed (ms ++ x.messages detailed) (a.accept x) := by
  obtain ⟨stream, detailed', count, logged, stop⟩ := a
  obtain rfl : detailed' = detailed := h.detailed_eq
  cases stop with
  | some fault => exact h.stopped rfl _
  | none =>
    have hcount : count = ms.length := h.running rfl
    have hlines : stream.lines = s.lines ++ ms.map Message.line := by
      have := h.lines_eq
      rwa [h.running rfl, List.take_length] at this
    cases x with
    | text text =>
      rw [Sent.messages, List.append_nil]
      exact ⟨rfl, h.lines_eq, h.reached_le, h.running⟩
    | description d =>
      have hput := stream.lines_putLine (d.announce detailed').line
      rcases hp : stream.putLine (d.announce detailed').line with ⟨stream', fault | ⟨⟩⟩
      · rw [accept_error hp]
        cases fault with
        | write =>
          -- Nothing was written: what was reached so far is now a proper part.
          have hl : stream'.lines = stream.lines := by simpa [hp, Stream.landed] using hput
          refine ⟨rfl, ?_, ?_, fun hn => by cases hn⟩
          · simp [reached, hl, hlines, hcount]
          · simp [reached, hcount]
        | flush =>
          have hl : stream'.lines = stream.lines ++ [(d.announce detailed').line] := by
            simpa [hp, Stream.landed] using hput
          exact .of_lines rfl (by simp [hl, hlines, Sent.messages])
            (by simp [reached, hcount, Sent.messages])
      · rw [accept_ok hp]
        have hl : stream'.lines = stream.lines ++ [(d.announce detailed').line] := by
          simpa [hp, Stream.landed] using hput
        exact .of_lines rfl (by simp [hl, hlines, Sent.messages])
          (by simp [reached, hcount, Sent.messages])

theorem Told.acceptAll : ∀ (xs : List Sent) {ms : List Message} {a : Announcement},
    Told s detailed ms a →
    Told s detailed (ms ++ xs.flatMap (Sent.messages detailed)) (xs.foldl Announcement.accept a)
  | [], ms, a, h => by simpa using h
  | x :: xs, ms, a, h => by
    simpa [List.append_assoc] using (h.accept x).acceptAll xs

theorem Told.askAll (ps : List Provider) {ms : List Message} {a : Announcement}
    (h : Told s detailed ms a) :
    Told s detailed (ms ++ ps.flatMap (Provider.messages detailed)) (a.askAll ps) := by
  have hall := h.acceptAll (ps.flatMap Provider.sent)
  rw [List.flatMap_assoc] at hall
  obtain ⟨logged, heq⟩ := askAll_eq a ps
  rw [heq]
  exact ⟨hall.detailed_eq, hall.lines_eq, hall.reached_le, hall.running⟩

/-! ## Flushes -/

/-- Nothing has failed, and nothing will. -/
def Sound (a : Announcement) : Prop := a.stop = none ∧ a.stream.Reliable

theorem Sound.accept {a : Announcement} (h : Sound a) (x : Sent) : Sound (a.accept x) := by
  obtain ⟨stream, detailed, count, logged, stop⟩ := a
  obtain ⟨rfl, hr⟩ : stop = none ∧ stream.Reliable := h
  cases x with
  | text text => exact ⟨rfl, hr⟩
  | description d =>
    obtain ⟨hok, hr'⟩ := hr.putLine (d.announce detailed).line
    rcases hp : stream.putLine (d.announce detailed).line with ⟨stream', result⟩
    rw [hp] at hok hr'
    obtain rfl : result = .ok () := hok
    rw [accept_ok hp]
    exact ⟨rfl, hr'⟩

theorem Sound.acceptAll : ∀ (xs : List Sent) {a : Announcement}, Sound a →
    Sound (xs.foldl Announcement.accept a)
  | [], _, h => h
  | x :: xs, _, h => (h.accept x).acceptAll xs

theorem Sound.askAll (ps : List Provider) {a : Announcement} (h : Sound a) :
    Sound (a.askAll ps) := by
  obtain ⟨logged, heq⟩ := askAll_eq a ps
  rw [heq]
  exact h.acceptAll (ps.flatMap Provider.sent)

end Announcement

end InspectionFeed
