/-
An announcement of kinds of findings on a stream that may fail, at any write or
flush. The plan of the stream alone tells how it ends: all lines are there and
counted (`Stream.Works`), or those up to the first failure (`Stream.FailsAt`).
Whatever happens, the rest of the reporter stays as it was, and later calls do
what they would have done without the announcement.
-/
import InspectionFeed.Proofs.Reporter.Past

namespace InspectionFeed

/-! ## Plans -/

namespace Stream

/-- The next `n` lines will be written and flushed. -/
def Works (s : Stream) (n : Nat) : Prop :=
  ∀ i < n, s.failingWrites[i]? ≠ some true ∧ s.failingFlushes[i]? ≠ some true

/-- After `k` lines that work, the next one fails in this way. -/
inductive FailsAt (s : Stream) (k : Nat) : Fault → Prop
  | write (before : s.Works k) (hw : s.failingWrites[k]? = some true) : FailsAt s k .write
  | flush (before : s.Works k) (hw : s.failingWrites[k]? ≠ some true)
    (hf : s.failingFlushes[k]? = some true) : FailsAt s k .flush

variable {s : Stream} {n k : Nat} {fault : Fault}

theorem Works.succ (h : s.Works n) (hw : s.failingWrites[n]? ≠ some true)
    (hf : s.failingFlushes[n]? ≠ some true) : s.Works (n + 1) := by
  intro i hi
  rcases Nat.lt_succ_iff_lt_or_eq.1 hi with hlt | rfl
  · exact h i hlt
  · exact ⟨hw, hf⟩

/-- Some lines in a row work, or there is a first one that fails. -/
theorem works_or_failsAt (s : Stream) (n : Nat) :
    s.Works n ∨ ∃ k < n, ∃ fault, s.FailsAt k fault := by
  induction n with
  | zero => exact .inl fun i hi => absurd hi (Nat.not_lt_zero i)
  | succ n ih =>
    rcases ih with h | ⟨k, hk, hfails⟩
    · by_cases hw : s.failingWrites[n]? = some true
      · exact .inr ⟨n, Nat.lt_succ_self n, _, .write h hw⟩
      · by_cases hf : s.failingFlushes[n]? = some true
        · exact .inr ⟨n, Nat.lt_succ_self n, _, .flush h hw hf⟩
        · exact .inl (h.succ hw hf)
    · exact .inr ⟨k, Nat.lt_succ_of_lt hk, hfails⟩

theorem putLine_of_works (h : s.Works (n + 1)) (line : String) :
    s.putLine line = (⟨line :: s.written, s.flushes + 1, s.failingWrites.tail,
      s.failingFlushes.tail⟩, .ok ()) := by
  obtain ⟨hw, hf⟩ := h 0 (Nat.succ_pos n)
  rw [← List.head?_eq_getElem?] at hw hf
  unfold putLine
  rw [if_neg hw]
  unfold flush
  rw [if_neg hf]

theorem Works.putLine (h : s.Works (n + 1)) (line : String) :
    (s.putLine line).1.Works n := by
  rw [putLine_of_works h]
  intro i hi
  simpa only [List.getElem?_tail] using h (i + 1) (Nat.succ_lt_succ hi)

theorem FailsAt.before (h : s.FailsAt k fault) : s.Works k := by
  cases h with
  | write before => exact before
  | flush before => exact before

theorem FailsAt.putLine (h : s.FailsAt (k + 1) fault) (line : String) :
    (s.putLine line).1.FailsAt k fault := by
  have hworks := h.before.putLine line
  have hput := congrArg Prod.fst (putLine_of_works h.before line)
  cases h with
  | write before hw => exact .write hworks (by rwa [hput, List.getElem?_tail])
  | flush before hw hf =>
    exact .flush hworks (by rwa [hput, List.getElem?_tail]) (by rwa [hput, List.getElem?_tail])

theorem putLine_of_failsAt (h : s.FailsAt 0 fault) (line : String) :
    (s.putLine line).2 = .error fault := by
  cases h with
  | write before hw =>
    rw [← List.head?_eq_getElem?] at hw
    unfold putLine
    rw [if_pos hw]
  | flush before hw hf =>
    rw [← List.head?_eq_getElem?] at hw hf
    unfold putLine
    rw [if_neg hw]
    unfold flush
    rw [if_pos hf]

end Stream

/-! ## Announcements -/

namespace Provider

theorem messages_eq_map (detailed : Bool) (p : Provider) :
    p.messages detailed = p.descriptions.map (·.announce detailed) := by
  unfold messages descriptions
  induction p.sent with
  | nil => rfl
  | cons x xs ih =>
    cases x with
    | text text => exact ih
    | description d => exact congrArg (d.announce detailed :: ·) ih

end Provider

namespace Announcement

variable {a : Announcement} {k : Nat} {fault : Stream.Fault}

theorem acceptAll_of_stopped (h : a.stop = some fault) (xs : List Sent) :
    xs.foldl accept a = a := by
  obtain ⟨stream, detailed, count, logged, stop⟩ := a
  obtain rfl : stop = some fault := h
  induction xs with
  | nil => rfl
  | cons x xs ih => exact ih

/-- On a stream that works for all descriptions, all that is sent is taken. -/
theorem acceptAll_of_works (xs : List Sent) {stream : Stream} {detailed : Bool} {count : Nat}
    {logged : List Log.Event} (h : stream.Works (xs.filterMap Sent.description?).length) :
    (xs.foldl accept ⟨stream, detailed, count, logged, none⟩).stop = none := by
  induction xs generalizing stream count logged with
  | nil => rfl
  | cons x xs ih =>
    cases x with
    | text text => exact ih h
    | description d =>
      have hnext := Stream.Works.putLine h (d.announce detailed).line
      rw [List.foldl_cons, accept_ok (Stream.putLine_of_works h _)]
      rw [Stream.putLine_of_works h] at hnext
      exact ih hnext

/-- On a stream that fails at a description, the announcement stops there. -/
theorem acceptAll_of_failsAt (xs : List Sent) {stream : Stream} {detailed : Bool} {count : Nat}
    {logged : List Log.Event} (hk : k < (xs.filterMap Sent.description?).length)
    (h : stream.FailsAt k fault) :
    (xs.foldl accept ⟨stream, detailed, count, logged, none⟩).stop = some fault ∧
      (xs.foldl accept ⟨stream, detailed, count, logged, none⟩).count = count + k := by
  induction xs generalizing stream count logged k with
  | nil => cases hk
  | cons x xs ih =>
    cases x with
    | text text => exact ih hk h
    | description d =>
      rw [List.foldl_cons]
      cases k with
      | zero =>
        have hput := Stream.putLine_of_failsAt h (d.announce detailed).line
        rcases hp : stream.putLine (d.announce detailed).line with ⟨stream', result⟩
        rw [hp] at hput
        obtain rfl : result = .error fault := hput
        rw [accept_error hp, acceptAll_of_stopped rfl]
        exact ⟨rfl, rfl⟩
      | succ k =>
        have hnext := h.putLine (d.announce detailed).line
        rw [Stream.putLine_of_works h.before] at hnext
        rw [accept_ok (Stream.putLine_of_works h.before _)]
        obtain ⟨hstop, hcount⟩ := ih (Nat.lt_of_succ_lt_succ hk) hnext
        exact ⟨hstop, by rw [hcount]; omega⟩

end Announcement

/-! ## Reporters -/

namespace Reporter

/-- The lines about the kinds that providers describe, in the order of the providers and then in
the order in which each sends them. -/
def kindLines (r : Reporter) (ps : List Provider) : List String :=
  (ps.flatMap Provider.descriptions).map fun d => (d.announce r.settings.verbose).line

variable {r : Reporter} {ps : List Provider} {k : Nat} {fault : Stream.Fault}

theorem length_kindLines (r : Reporter) (ps : List Provider) :
    (r.kindLines ps).length =
      ((ps.flatMap Provider.sent).filterMap Sent.description?).length := by
  rw [kindLines, List.length_map, List.filterMap_flatMap]
  rfl

theorem map_line_messages (r : Reporter) (ps : List Provider) :
    (ps.flatMap (Provider.messages r.settings.verbose)).map Message.line = r.kindLines ps := by
  rw [funext (Provider.messages_eq_map r.settings.verbose), ← List.map_flatMap, List.map_map]
  rfl

/-- An announcement goes up to what it reached. -/
theorem lines_announce (r : Reporter) (ps : List Provider) :
    (r.announce ps).reporter.stream.lines = r.stream.lines ++ (r.kindLines ps).take
      ((Announcement.start r.stream r.settings.verbose).askAll ps).reached := by
  rw [← map_line_messages, ← List.map_take]
  exact (announce_told r ps).lines_eq

theorem announce_of_works (h : r.stream.Works (r.kindLines ps).length) :
    (r.announce ps).result = .ok (r.kindLines ps).length ∧
      (r.announce ps).reporter.stream.lines = r.stream.lines ++ r.kindLines ps := by
  have hstop : ((Announcement.start r.stream r.settings.verbose).askAll ps).stop = none := by
    obtain ⟨logged, heq⟩ := Announcement.askAll_eq (.start r.stream r.settings.verbose) ps
    rw [heq]
    exact Announcement.acceptAll_of_works _ (length_kindLines r ps ▸ h)
  have hreached := (announce_told r ps).running hstop
  rw [← List.length_map (f := Message.line), map_line_messages] at hreached
  refine ⟨?_, by rw [lines_announce, hreached, List.take_length]⟩
  rw [← hreached, announce, hstop, Announcement.reached, hstop]
  rfl

theorem announce_of_failsAt (hk : k < (r.kindLines ps).length) (h : r.stream.FailsAt k fault) :
    (r.announce ps).result = .error (.ofStream fault) ∧
      (r.announce ps).reporter.stream.lines =
        r.stream.lines ++ (r.kindLines ps).take (k + if fault = .flush then 1 else 0) := by
  obtain ⟨hstop, hcount⟩ :
      ((Announcement.start r.stream r.settings.verbose).askAll ps).stop = some fault ∧
        ((Announcement.start r.stream r.settings.verbose).askAll ps).count = 0 + k := by
    obtain ⟨logged, heq⟩ := Announcement.askAll_eq (.start r.stream r.settings.verbose) ps
    rw [heq]
    exact Announcement.acceptAll_of_failsAt _ (length_kindLines r ps ▸ hk) h
  refine ⟨by rw [announce, hstop], ?_⟩
  rw [lines_announce, Announcement.reached, hstop, hcount, Nat.zero_add]
  simp only [Option.some.injEq]

/-- **An announcement stays by itself**, whatever its stream does. All lines are there and counted,
or the call fails and just the lines before the failure are there, with the one whose flush failed.
The rest of the reporter is as it was, and for calls that follow, on any fate of the stream, it is
as if there had been no announcement. -/
theorem announce_isolated (r : Reporter) (ps : List Provider) :
    (r.stream.Works (r.kindLines ps).length →
      (r.announce ps).result = .ok (r.kindLines ps).length ∧
        (r.announce ps).reporter.stream.lines = r.stream.lines ++ r.kindLines ps) ∧
    (∀ k < (r.kindLines ps).length, r.stream.FailsAt k .write →
      (r.announce ps).result = .error .write ∧
        (r.announce ps).reporter.stream.lines =
          r.stream.lines ++ (r.kindLines ps).take k) ∧
    (∀ k < (r.kindLines ps).length, r.stream.FailsAt k .flush →
      (r.announce ps).result = .error .flush ∧
        (r.announce ps).reporter.stream.lines =
          r.stream.lines ++ (r.kindLines ps).take (k + 1)) ∧
    (r.stream.Works (r.kindLines ps).length ∨
      ∃ k < (r.kindLines ps).length, ∃ fault, r.stream.FailsAt k fault) ∧
    (r.announce ps).reporter = r.onto (r.announce ps).reporter.stream ∧
    ∀ (writes flushes : List Bool) (calls : List Call), List.Forall₂ Step.Alike
      ((r.onto (r.stream.replan writes flushes)).steps calls)
      (((r.announce ps).reporter.onto
        ((r.announce ps).reporter.stream.replan writes flushes)).steps calls) :=
  ⟨announce_of_works, fun _ => announce_of_failsAt, fun _ => announce_of_failsAt,
    r.stream.works_or_failsAt _, rfl,
    steps_alike r r.stream (r.announce ps).reporter.stream⟩

/-- Between texts two kinds are described. The flush of the second line fails, and the provider that
follows is not asked. -/
theorem second_kind_unflushed :
    let d (kind : String) : Description := .make kind .error "Short." "Long." 0
    let ps : List Provider := [.source "mixed" [.text "First.", .description (d "a"),
      .text "Second.", .description (d "b")], .catalog ⟨"rest", [d "c"]⟩]
    let r := new .default (.planned [] [false, true])
    r.stream.FailsAt 1 .flush ∧ (r.announce ps).result = .error .flush ∧
      (r.announce ps).reporter.stream.lines =
        [((d "a").announce false).line, ((d "b").announce false).line] := by
  intro d ps r
  have hfails : r.stream.FailsAt 1 .flush := by
    refine .flush (fun i hi => ?_) nofun rfl
    obtain rfl : i = 0 := by omega
    exact ⟨nofun, nofun⟩
  obtain ⟨-, -, hflush, -⟩ := announce_isolated r ps
  obtain ⟨hresult, hlines⟩ := hflush 1 (by decide) hfails
  exact ⟨hfails, hresult, hlines⟩

end Reporter

end InspectionFeed
