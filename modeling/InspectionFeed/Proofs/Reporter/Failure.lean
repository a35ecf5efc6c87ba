/-
What a failed write costs. A reporter notes a step of progress or a finding
before it writes the message, so a call whose write failed counts as made: the
notes are those of after the call, the counts and the stream those of before,
and the same call made again writes nothing, on any stream (`lost_of_failed`).

So a failed write of such a call always loses its message, and the notes tell
what was written just as long as no such write has failed
(`failedWrite_loses_message`).
-/
import InspectionFeed.Proofs.Reporter.Accounts

namespace InspectionFeed

namespace Reporter

variable {r : Reporter} {c : Call}

/-- The same reporter on another stream. -/
def onto (r : Reporter) (s : Stream) : Reporter := { r with stream := s }

/-- Notes and counts are the same. -/
structure SameNotes (r r' : Reporter) : Prop where
  lastProgress_eq : r'.lastProgress = r.lastProgress
  seen_eq : ∀ key, r'.seen.contains key = r.seen.contains key
  emitted_eq : r'.emitted = r.emitted
  suppressed_eq : r'.suppressed = r.suppressed

/-- A failed write of the call loses nothing: notes and counts are as before, and the call made
again where nothing fails writes its messages. -/
def LosesNothing (r : Reporter) (c : Call) : Prop :=
  (r.perform c).result = .error .write →
    SameNotes r (r.perform c).reporter ∧
    ∀ s : Stream, s.Reliable →
      (((r.perform c).reporter.onto s).perform c).reporter.stream.lines =
        s.lines ++ (c.messages r.settings).map Message.line

/-- A failed write of the call loses its message: nothing is written or counted, yet the call is a
repetition from then on, and made again on any stream it gives a result and writes nothing. -/
structure Lost (r : Reporter) (c : Call) : Prop where
  lines_eq : (r.perform c).reporter.stream.lines = r.stream.lines
  emitted_eq : (r.perform c).reporter.emitted = r.emitted
  suppressed_eq : (r.perform c).reporter.suppressed = r.suppressed
  lastProgress_eq : (r.perform c).reporter.lastProgress = c.step?.or r.lastProgress
  contains_iff : ∀ key, (r.perform c).reporter.seen.contains key = true ↔
    r.seen.contains key = true ∨ ∃ d, c.finding? = some d ∧ d.fingerprint? = some key
  repeats_before : r.repeats c = false
  repeats_after : (r.perform c).reporter.repeats c = true
  again : ∀ s : Stream, (((r.perform c).reporter.onto s).perform c).result = .ok none ∧
    (((r.perform c).reporter.onto s).perform c).reporter.stream = s

/-! ## Repetitions -/

theorem repeats_perform (hc : c.isNoted = true) (hp : c.isPrintable = true) :
    (r.perform c).reporter.repeats c = true := by
  cases c with
  | plain text => cases hc
  | progress subject stage value =>
    simp [repeats, lastProgress_perform, Call.step?]
  | diagnostic d =>
    obtain ⟨key, hf⟩ := exists_fingerprint? hp
    rw [repeats_diagnostic hf, contains_perform]
    exact .inr ⟨d, rfl, hf⟩
  | announce ps => cases hc

theorem repeats_onto (r : Reporter) (s : Stream) (c : Call) :
    (r.onto s).repeats c = r.repeats c := by
  cases c <;> rfl

/-! ## One failed write -/

theorem counts_of_failed (h : (r.perform c).result = .error .write) :
    (r.perform c).reporter.emitted = r.emitted ∧
      (r.perform c).reporter.suppressed = r.suppressed := by
  cases hc : c.finding? with
  | none =>
    obtain ⟨he, hs, -⟩ := counts_perform (r := r) hc
    exact ⟨he, hs⟩
  | some d =>
    obtain rfl := Call.eq_diagnostic_of_finding? hc
    have hd : (r.diagnostic d).result = .error .write := map_eq_error_iff.1 h
    show (r.diagnostic d).reporter.emitted = r.emitted ∧
      (r.diagnostic d).reporter.suppressed = r.suppressed
    cases r.findingCase d with
    | unprintable _ hcall =>
      rw [hcall] at hd
      cases hd
    | known _ _ _ hres =>
      rw [hres] at hd
      cases hd
    | @new _ pairs _ _ _ _ hr hres =>
      have hnot : (r.stream.putLine (Message.inspection pairs).line).2 ≠ .ok () := fun hok => by
        rw [hres, mapError_eq_ok_iff.2 hok] at hd
        cases hd
      simp [hr, hnot]

/-- A call gets to write only if its finding can be printed. -/
theorem isPrintable_of_failed (h : (r.perform c).result = .error .write) :
    c.isPrintable = true := by
  cases hp : c.isPrintable with
  | true => rfl
  | false =>
    rw [(perform_unprintable hp).1] at h
    cases h

theorem lost_of_failed (hc : c.isNoted = true) (h : (r.perform c).result = .error .write) :
    Lost r c := by
  obtain ⟨he, hs⟩ := counts_of_failed h
  have hagain := repeats_perform (r := r) hc (isPrintable_of_failed h)
  refine ⟨?_, he, hs, lastProgress_perform r c, contains_perform r c, ?_, hagain, ?_⟩
  · rw [lines_perform_of_ne_announce (ne_announce_of_isNoted hc), h]
    simp [landed]
  · cases hr : r.repeats c with
    | false => rfl
    | true => rw [(perform_of_repeats hr).1] at h; cases h
  · intro s
    refine perform_of_repeats (r := (r.perform c).reporter.onto s) ?_
    rw [repeats_onto, hagain]

theorem SameNotes.repeats_eq {r' : Reporter} (h : SameNotes r r') (c : Call) :
    r'.repeats c = r.repeats c := by
  cases c with
  | plain text => rfl
  | progress subject stage value => simp only [repeats, h.lastProgress_eq]
  | diagnostic d =>
    rw [repeats, repeats]
    cases d.fingerprint? with
    | none => rfl
    | some key => exact h.seen_eq key
  | announce ps => rfl

/-- No failed write of a noted call is without loss. -/
theorem losesNothing_iff (hc : c.isNoted = true) :
    LosesNothing r c ↔ (r.perform c).result ≠ .error .write := by
  refine ⟨fun hn h => ?_, fun h hf => absurd hf h⟩
  have hl := lost_of_failed hc h
  have := (hn h).1.repeats_eq c
  rw [hl.repeats_after, hl.repeats_before] at this
  cases this

/-! ## Runs with failed writes -/

/-- The notes of a reporter after these steps are about what is on the stream: each finding that
is known has a line, and the last progress is that of the last line about progress. -/
structure NotesWritten (ts : List Step) (r : Reporter) : Prop where
  known : ∀ key, r.seen.contains key = true →
    ∃ t ∈ ts, ∃ d, t.call = .diagnostic d ∧ d.fingerprint? = some key ∧ t.lines ≠ []
  progress : r.lastProgress =
    ((ts.filter fun t => !t.lines.isEmpty).filterMap fun t => t.call.step?).getLast?

/-- A noted call that is no repetition has a line unless its write failed, or its finding cannot be
printed. -/
theorem lines_step_ne_nil (hc : c.isNoted = true) (hp : c.isPrintable = true)
    (hr : r.repeats c = false) (hf : (r.perform c).result ≠ .error .write) :
    Step.lines ⟨r, c⟩ ≠ [] := by
  have hl : landed (r.perform c).result = true := by
    have hu : Step.failed ⟨r, c⟩ .unprintable = false := by rw [failed_unprintable, hp]; rfl
    rcases h : (r.perform c).result with (_ | _ | _) | _
    · exact absurd h (of_decide_eq_false hu)
    · exact absurd h hf
    · rfl
    · rfl
  rw [lines_step_of_ne_announce (ne_announce_of_isNoted hc), if_pos hl, due_of_not_repeats hr]
  cases c with
  | plain text => cases hc
  | progress subject stage value => exact List.cons_ne_nil _ _
  | diagnostic d =>
    rcases printable_or_not r.settings d with hp' | ⟨key, pairs, -, -, hmessages⟩
    · rw [Call.isPrintable_diagnostic, hp'] at hp
      cases hp
    · rw [hmessages]
      exact List.cons_ne_nil _ _
  | announce ps => cases hc

/-- Progress on lines, after one more step. -/
theorem writtenProgress_append (ts : List Step) (t : Step) :
    (((ts ++ [t]).filter fun t => !t.lines.isEmpty).filterMap fun t => t.call.step?).getLast? =
      (if t.lines = [] then none else t.call.step?).or
        ((ts.filter fun t => !t.lines.isEmpty).filterMap fun t => t.call.step?).getLast? := by
  rw [List.filter_append, List.filterMap_append]
  by_cases hl : t.lines = []
  · simp [hl]
  · cases hs : t.call.step? <;> simp [hl, hs]

theorem step?_of_repeats {p : String × String} (h : r.repeats c = true) (hs : c.step? = some p) :
    r.lastProgress = some p := by
  cases c with
  | progress subject stage value =>
    rw [of_decide_eq_true h]
    exact hs
  | _ => cases hs

/-- A call leaves the notes about what is on the stream, unless it is a noted one whose write
fails. -/
theorem NotesWritten.perform {ts : List Step} (h : NotesWritten ts r)
    (hf : c.isNoted = true → (r.perform c).result ≠ .error .write) :
    NotesWritten (ts ++ [⟨r, c⟩]) (r.perform c).reporter where
  known key hkey := by
    have earlier (hold : r.seen.contains key = true) : ∃ t ∈ ts ++ [⟨r, c⟩], ∃ d,
        t.call = .diagnostic d ∧ d.fingerprint? = some key ∧ t.lines ≠ [] := by
      obtain ⟨t, ht, hd⟩ := h.known key hold
      exact ⟨t, by simp [ht], hd⟩
    rcases (contains_perform r c key).1 hkey with hold | ⟨d, hd, hf'⟩
    · exact earlier hold
    · have hc : c.isNoted = true := by simp [Call.isNoted, hd]
      obtain rfl := Call.eq_diagnostic_of_finding? hd
      cases hr : r.repeats (.diagnostic d) with
      | true => exact earlier ((repeats_diagnostic hf').symm.trans hr)
      | false =>
        have hp : (Call.diagnostic d).isPrintable = true := isPrintable_of_fingerprint? hf'
        exact ⟨⟨r, .diagnostic d⟩, by simp, d, rfl, hf', lines_step_ne_nil hc hp hr (hf hc)⟩
  progress := by
    rw [writtenProgress_append, lastProgress_perform, ← h.progress]
    cases hs : c.step? with
    | none => simp
    | some p =>
      have hc : c.isNoted = true := by simp [Call.isNoted, hs]
      have hp : c.isPrintable = true := by cases c <;> first | rfl | cases hs
      cases hr : r.repeats c with
      | true => simp [lines_step_of_repeats hr, step?_of_repeats hr hs]
      | false => simp [lines_step_ne_nil hc hp hr (hf hc)]

/-- After a noted call whose write failed they are about more than is on the stream: the call was
none that the run had made before. -/
theorem not_notesWritten_of_failed {ts : List Step} (h : NotesWritten ts r)
    (hn : Noted (ts.map Step.call) r) (hc : c.isNoted = true)
    (hf : (r.perform c).result = .error .write) :
    ¬ NotesWritten (ts ++ [⟨r, c⟩]) (r.perform c).reporter := by
  intro hw
  have hlost := lost_of_failed hc hf
  have hlines : Step.lines ⟨r, c⟩ = [] := by
    rw [lines_step_of_ne_announce (ne_announce_of_isNoted hc), hf]
    rfl
  cases c with
  | plain text => cases hc
  | progress subject stage value =>
    have hlast := hw.progress
    rw [writtenProgress_append, lastProgress_perform, ← h.progress, hlines] at hlast
    have : r.repeats (.progress subject stage value) = true :=
      decide_eq_true (by simpa [Call.step?] using hlast.symm)
    rw [hlost.repeats_before] at this
    cases this
  | diagnostic d =>
    obtain ⟨key, hkey⟩ := exists_fingerprint? (isPrintable_of_failed hf)
    obtain ⟨t, ht, e, hcall, hfp, hne⟩ :=
      hw.known key ((contains_perform r _ _).2 (.inr ⟨d, rfl, hkey⟩))
    rcases List.mem_append.1 ht with ht | ht
    · have he : e ∈ (ts.map Step.call).filterMap Call.finding? := by
        simp only [List.mem_filterMap, List.mem_map]
        exact ⟨t.call, ⟨t, ht, rfl⟩, by rw [hcall]; rfl⟩
      have hnot := hlost.repeats_before
      rw [repeats_diagnostic hkey, (hn.contains_fingerprint_iff hfp).2 he] at hnot
      cases hnot
    · obtain rfl := List.mem_singleton.1 ht
      exact hne hlines
  | announce ps => cases hc

/-- The notes of a run are about what is on the stream, at every time, just when no write of a
noted call fails in it. -/
theorem notesWritten_run_iff (settings : Settings) (stream : Stream) (calls : List Call) :
    (∀ cs, cs <+: calls → NotesWritten ((new settings stream).steps cs)
        ((new settings stream).performAll cs)) ↔
      ∀ t ∈ (new settings stream).steps calls, t.call.isNoted = true → t.failed .write = false := by
  induction calls using List.reverseRecOn with
  | nil =>
    refine ⟨fun _ t ht => (by cases ht), fun _ cs hcs => ?_⟩
    obtain rfl := List.prefix_nil.1 hcs
    exact ⟨fun key hk => by simp [performAll, new] at hk, rfl⟩
  | append_singleton cs c ih =>
    have hnoted : Noted (((new settings stream).steps cs).map Step.call)
        ((new settings stream).performAll cs) := by
      rw [map_call_steps]
      exact noted_run settings stream cs
    simp only [steps_append, List.mem_append, List.mem_singleton]
    constructor
    · rintro h t (ht | rfl) hc
      · exact ih.1 (fun cs' hcs' => h cs' (hcs'.trans (List.prefix_append cs [c]))) t ht hc
      · refine decide_eq_false fun hf => ?_
        have hall := h (cs ++ [c]) List.prefix_rfl
        rw [steps_append, performAll_append] at hall
        exact not_notesWritten_of_failed (h cs (List.prefix_append cs [c])) hnoted hc hf hall
    · intro h cs' hcs'
      have hbefore := ih.2 fun t ht => h t (.inl ht)
      rcases List.prefix_concat_iff.1 hcs' with rfl | hcs'
      · rw [steps_append, performAll_append]
        exact (hbefore cs List.prefix_rfl).perform fun hc => of_decide_eq_false (h _ (.inr rfl) hc)
      · exact hbefore cs' hcs'

/-- **A failed write loses its message**, in every state that calls on a failing stream can reach.
A call about progress or a finding meets the promise that a failed write loses nothing only where
its write does not fail; where it does, the reporter counts and writes nothing, notes the call
all the same, and takes the call made again for a repetition, whatever the stream does then. So
the notes are about what is on the stream, all through a run, just when no such write fails. -/
theorem failedWrite_loses_message (settings : Settings) (writes flushes : List Bool)
    (calls : List Call) :
    let start := new settings (.planned writes flushes)
    (∀ c : Call, c.isNoted = true →
      (LosesNothing (start.performAll calls) c ↔
        ((start.performAll calls).perform c).result ≠ .error .write) ∧
      (((start.performAll calls).perform c).result = .error .write →
        Lost (start.performAll calls) c)) ∧
    ((∀ cs, cs <+: calls → NotesWritten (start.steps cs) (start.performAll cs)) ↔
      ∀ t ∈ start.steps calls, t.call.isNoted = true → t.failed .write = false) :=
  ⟨fun _ hc => ⟨losesNothing_iff hc, lost_of_failed hc⟩,
    notesWritten_run_iff settings (.planned writes flushes) calls⟩

/-- A new reporter whose first write fails loses a finding, or a step of progress. -/
theorem first_message_lost :
    let r := new .default (.planned [true] [])
    let d : Diagnostic := .make "nullPointer" "Null pointer" "" .none false 0 [] ""
    (r.perform (.diagnostic d)).result = .error .write ∧ ¬ LosesNothing r (.diagnostic d) ∧
      (r.perform (.progress "a.c" "parsing" 0)).result = .error .write ∧
      ¬ LosesNothing r (.progress "a.c" "parsing" 0) := by
  intro r d
  have hd : (r.perform (.diagnostic d)).result = .error .write := by
    have hp : d.isPrintable = true := by decide
    rcases printable_or_not r.settings d with hp' | ⟨key, pairs, hf, hpairs, -⟩
    · rw [hp] at hp'
      cases hp'
    · rw [perform, Reply.map, (diagnostic_new hf hpairs (by simp [r, new])).2]
      rfl
  have hp : (r.perform (.progress "a.c" "parsing" 0)).result = .error .write := by
    rw [perform, Reply.map, (progress_new (by simp [r, new])).2]
    rfl
  exact ⟨hd, fun h => (losesNothing_iff rfl).1 h hd, hp, fun h => (losesNothing_iff rfl).1 h hp⟩

end Reporter

end InspectionFeed
