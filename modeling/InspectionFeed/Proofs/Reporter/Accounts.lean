/-
The accounts of a run on a stream that fails now and then. Whatever writes and
flushes fail, the stream holds whole lines only, each the line of a message of
some call, and the numbers agree (`accounts`): each call about a finding was
emitted, suppressed or raised; the findings known are those emitted and those
that raised, but for those that cannot be printed; and the lines about findings
are those emitted and those whose flush raised. A finding is tried once at most,
even if that failed.

Each call changes the numbers by what it gave (`balanced`), which is all the
induction over a run needs.
-/
import InspectionFeed.Proofs.Reporter.Report

namespace InspectionFeed

namespace Step

/-- The call is one about a finding. -/
def isFinding (t : Step) : Bool := t.call.finding?.isSome

/-- The call raised for this reason. -/
def failed (t : Step) (fault : Reporter.Fault) : Bool := t.reply.result = .error fault

/-- The call raised. -/
def raised (t : Step) : Bool := t.failed .unprintable || t.failed .write || t.failed .flush

/-- The call turned to the stream, which shows in a line or in a failure of the stream. -/
def tried (t : Step) : Bool := t.failed .write || t.failed .flush || !t.lines.isEmpty

end Step

/-- A message about a finding. -/
def Message.isInspection (m : Message) : Bool := m.name = "inspection"

namespace Reporter

variable {r : Reporter} {d : Diagnostic}

/-! ## One call -/

/-- Calls that are not about findings keep the counts and the findings that are known. -/
theorem counts_perform {c : Call} (hc : c.finding? = none) :
    (r.perform c).reporter.emitted = r.emitted ∧
      (r.perform c).reporter.suppressed = r.suppressed ∧
      (r.perform c).reporter.seen = r.seen := by
  cases c with
  | plain text => exact ⟨rfl, rfl, rfl⟩
  | progress subject stage value =>
    show (r.progress subject stage).reporter.emitted = r.emitted ∧
      (r.progress subject stage).reporter.suppressed = r.suppressed ∧
      (r.progress subject stage).reporter.seen = r.seen
    by_cases h : r.lastProgress = some (subject, stage)
    · rw [(progress_repeated h).1]; exact ⟨rfl, rfl, rfl⟩
    · rw [(progress_new h).1]; exact ⟨rfl, rfl, rfl⟩
  | diagnostic d => cases hc
  | announce ps => exact ⟨rfl, rfl, rfl⟩

theorem isInspection_of_mem_messages {s : Settings} {c : Call} {m : Message}
    (h : m ∈ c.messages s) : m.isInspection = c.finding?.isSome := by
  cases c with
  | plain text => obtain rfl := List.mem_singleton.1 h; rfl
  | progress subject stage value => obtain rfl := List.mem_singleton.1 h; rfl
  | diagnostic d => obtain ⟨pairs, -, rfl⟩ := exists_attributes_of_mem_messages h; rfl
  | announce ps => obtain ⟨e, rfl⟩ := exists_description_of_mem_messages h; rfl

/-- What a call does to the stream and to the numbers of its reporter. -/
structure Balanced (t : Step) : Prop where
  calls : t.after.emitted + t.after.suppressed + (if t.isFinding && t.raised then 1 else 0) =
    t.before.emitted + t.before.suppressed + if t.isFinding then 1 else 0
  known : t.after.seen.size + t.before.emitted + (if t.failed .unprintable then 1 else 0) =
    t.before.seen.size + t.after.emitted + if t.isFinding && t.raised then 1 else 0
  lines : ∃ ms : List Message,
    t.after.stream.lines = t.before.stream.lines ++ ms.map Message.line ∧
      (∀ m ∈ ms, m ∈ t.call.messages t.before.settings) ∧
      ms.countP Message.isInspection + t.before.emitted =
        t.after.emitted + if t.isFinding && t.failed .flush then 1 else 0

theorem failed_unprintable (r : Reporter) (c : Call) :
    Step.failed ⟨r, c⟩ .unprintable = !c.isPrintable := by
  rw [Bool.eq_iff_iff, Step.failed, decide_eq_true_eq, Bool.not_eq_true']
  refine ⟨fun h => ?_, fun h => (perform_unprintable h).1⟩
  cases c with
  | plain text => exact absurd (map_eq_error_iff.1 h) (mapError_ne_unprintable _)
  | progress subject stage value =>
    have hresult : (r.progress subject stage).result = .error .unprintable := map_eq_error_iff.1 h
    by_cases hp : r.lastProgress = some (subject, stage)
    · rw [(progress_repeated hp).2] at hresult
      cases hresult
    · rw [(progress_new hp).2] at hresult
      exact absurd hresult (mapError_ne_unprintable _)
  | diagnostic d =>
    have hresult : (r.diagnostic d).result = .error .unprintable := map_eq_error_iff.1 h
    cases r.findingCase d with
    | unprintable hp _ => exact hp
    | known _ _ _ hres =>
      rw [hres] at hresult
      cases hresult
    | new _ _ _ _ _ hres =>
      rw [hres] at hresult
      exact absurd hresult (mapError_ne_unprintable _)
  | announce ps =>
    have hresult : (r.announce ps).result = .error .unprintable := map_eq_error_iff.1 h
    unfold announce at hresult
    dsimp only at hresult
    split at hresult
    next fault _ => cases fault <;> cases hresult
    · cases hresult

theorem balanced_of_not_finding {c : Call} (hc : c.finding? = none) : Balanced ⟨r, c⟩ := by
  obtain ⟨he, hs, hk⟩ := counts_perform (r := r) hc
  have hf : Step.isFinding ⟨r, c⟩ = false := by simp [Step.isFinding, hc]
  have hu : Step.failed ⟨r, c⟩ .unprintable = false := by
    rw [failed_unprintable, Call.isPrintable, hc]
    rfl
  obtain ⟨n, -, hlines, -⟩ := lines_perform r c
  have hmem : ∀ m ∈ (r.due c).take n, m ∈ c.messages r.settings := by
    intro m hm
    have := List.mem_of_mem_take hm
    unfold due at this
    split at this
    · cases this
    · exact this
  refine ⟨?_, ?_, _, hlines, hmem, ?_⟩
  · simp [Step.after, Step.reply, hf, he, hs]
  · simp [Step.after, Step.reply, hf, hu, he, hk]
  · have hzero : ((r.due c).take n).countP Message.isInspection = 0 := by
      rw [List.countP_eq_zero]
      intro m hm
      simp [isInspection_of_mem_messages (hmem m hm), hc]
    simp [Step.after, Step.reply, hf, he, hzero]

theorem failed_diagnostic (r : Reporter) (d : Diagnostic) (fault : Fault) :
    Step.failed ⟨r, .diagnostic d⟩ fault = decide ((r.diagnostic d).result = .error fault) :=
  decide_eq_decide.2 map_eq_error_iff

/-- A finding that cannot be printed raises, and nothing else. -/
theorem balanced_unprintable (hp : d.isPrintable = false) : Balanced ⟨r, .diagnostic d⟩ := by
  have hd := diagnostic_unprintable (r := r) hp
  have hafter : Step.after ⟨r, .diagnostic d⟩ = r := congrArg Reply.reporter hd
  have hfailed (fault : Fault) :
      Step.failed ⟨r, .diagnostic d⟩ fault = decide (Fault.unprintable = fault) := by
    simp [failed_diagnostic, hd]
  refine ⟨?_, ?_, [], ?_, by simp, ?_⟩
  · simp [hafter, Step.raised, hfailed, Step.isFinding, Call.finding?]
  · simp [hafter, Step.raised, hfailed, Step.isFinding, Call.finding?]
  · simp [hafter]
  · simp [hafter, hfailed]

variable {key : String} {pairs : List (String × String)}

theorem balanced_known (hf : d.fingerprint? = some key) (h : r.seen.contains key = true) :
    Balanced ⟨r, .diagnostic d⟩ := by
  obtain ⟨hr, hres⟩ := diagnostic_known hf h
  have hafter : Step.after ⟨r, .diagnostic d⟩ = { r with suppressed := r.suppressed + 1 } := hr
  have hfailed (fault : Fault) : Step.failed ⟨r, .diagnostic d⟩ fault = false := by
    simp [failed_diagnostic, hres]
  refine ⟨?_, ?_, [], ?_, by simp, ?_⟩
  · simp [hafter, Step.raised, hfailed, Step.isFinding, Call.finding?]
    omega
  · simp [hafter, Step.raised, hfailed]
  · simp [hafter]
  · simp [hafter, hfailed]

/-- A finding that is new becomes known. Its line and its count follow from how writing ends: a
failed write leaves none of them, a failed flush the line alone. -/
theorem balanced_new (hf : d.fingerprint? = some key)
    (hpairs : attributes? r.settings d = some pairs)
    (hmessages : (Call.diagnostic d).messages r.settings = [.inspection pairs])
    (h : r.seen.contains key = false) : Balanced ⟨r, .diagnostic d⟩ := by
  obtain ⟨hr, hres⟩ := diagnostic_new hf hpairs h
  have hsize : (r.diagnostic d).reporter.seen.size = r.seen.size + 1 := by
    rw [hr, Std.HashSet.size_insert, if_neg]
    rw [← Std.HashSet.contains_iff_mem, h]
    decide
  have hemitted : (r.diagnostic d).reporter.emitted =
      r.emitted + if (r.diagnostic d).result = .ok () then 1 else 0 := by
    rw [hr, hres]
    simp only [mapError_eq_ok_iff]
  have hsuppressed : (r.diagnostic d).reporter.suppressed = r.suppressed := by rw [hr]
  have hlines := lines_diagnostic_new hf hpairs h
  have hafter : Step.after ⟨r, .diagnostic d⟩ = (r.diagnostic d).reporter := rfl
  have hfinding : Step.isFinding ⟨r, .diagnostic d⟩ = true := rfl
  have hu : Step.failed ⟨r, .diagnostic d⟩ .unprintable = false := by
    rw [failed_diagnostic, hres]
    exact decide_eq_false (mapError_ne_unprintable _)
  have hraised : Step.raised ⟨r, .diagnostic d⟩ = true ↔ ¬ (r.diagnostic d).result = .ok () := by
    simp only [Step.raised, failed_diagnostic]
    rcases (r.diagnostic d).result with (_ | _ | _) | ⟨⟩ <;> simp
  refine ⟨?_, ?_, if landed (r.diagnostic d).result then [.inspection pairs] else [], ?_, ?_, ?_⟩
  · simp only [hafter, hfinding, Bool.true_and, hraised, hemitted, hsuppressed, if_true, ite_not]
    split <;> omega
  · simp only [hafter, hfinding, Bool.true_and, hraised, hemitted, hsize, ite_not, hu,
      Bool.false_eq_true, if_false]
    split <;> omega
  · rw [hafter, hlines]
    split <;> rfl
  · intro m hm
    split at hm
    · exact hmessages ▸ hm
    · cases hm
  · have hne : (r.diagnostic d).result ≠ .error .unprintable :=
      hres ▸ mapError_ne_unprintable _
    simp only [hafter, hfinding, Bool.true_and, failed_diagnostic, hemitted]
    rcases hresult : (r.diagnostic d).result with (_ | _ | _) | ⟨⟩
    · exact absurd hresult hne
    · simp [landed]
    · simp [landed, Message.isInspection, Message.inspection, Nat.add_comm]
    · simp [landed, Message.isInspection, Message.inspection, Nat.add_comm]

theorem balanced (r : Reporter) (c : Call) : Balanced ⟨r, c⟩ := by
  cases hc : c.finding? with
  | none => exact balanced_of_not_finding hc
  | some d =>
    obtain rfl := Call.eq_diagnostic_of_finding? hc
    cases r.findingCase d with
    | unprintable hp _ => exact balanced_unprintable hp
    | known hf hk _ _ => exact balanced_known hf hk
    | new hf hk hpairs hmessages _ _ => exact balanced_new hf hpairs hmessages hk

/-! ## All calls -/

/-- The numbers of a run, each the sum of what its calls contribute. -/
theorem balanced_run (settings : Settings) (stream : Stream) (calls : List Call) :
    let r := (new settings stream).performAll calls
    let ts := (new settings stream).steps calls
    r.emitted + r.suppressed + ts.countP (fun t => t.isFinding && t.raised) =
        ts.countP Step.isFinding ∧
      r.seen.size + ts.countP (·.failed .unprintable) =
        r.emitted + ts.countP (fun t => t.isFinding && t.raised) ∧
      ∃ ms : List Message, r.stream.lines = stream.lines ++ ms.map Message.line ∧
        (∀ m ∈ ms, ∃ c ∈ calls, m ∈ c.messages settings) ∧
        ms.countP Message.isInspection =
          r.emitted + ts.countP fun t => t.isFinding && t.failed .flush := by
  induction calls using List.reverseRecOn with
  | nil =>
    refine ⟨rfl, ?_, [], ?_, by simp, rfl⟩
    · simp [performAll, new, steps]
    · simp [performAll, new]
  | append_singleton cs c ih =>
    obtain ⟨hcalls, hknown, ms, hlines, hmem, hcount⟩ := ih
    obtain ⟨hcalls', hknown', ms', hlines', hmem', hcount'⟩ :=
      balanced ((new settings stream).performAll cs) c
    simp only [performAll_append, steps_append, List.countP_append, List.countP_singleton]
    simp only [Step.after, Step.reply] at hcalls' hknown' hlines' hcount'
    refine ⟨by omega, by omega, ms ++ ms', ?_, ?_, ?_⟩
    · rw [hlines', hlines, List.map_append, List.append_assoc]
    · intro m hm
      rcases List.mem_append.1 hm with hm | hm
      · obtain ⟨c', hc', hm'⟩ := hmem m hm
        exact ⟨c', by simp [hc'], hm'⟩
      · have := hmem' m hm
        rw [settings_performAll] at this
        exact ⟨c, by simp, this⟩
    · rw [List.countP_append]
      omega

/-! ## One try for each finding -/

/-- A call about a finding turns to the stream just when the finding can be printed and is not
known. -/
theorem tried_diagnostic (r : Reporter) (d : Diagnostic) :
    Step.tried ⟨r, .diagnostic d⟩ = (d.isPrintable && !r.repeats (.diagnostic d)) := by
  simp only [Step.tried, failed_diagnostic]
  cases r.findingCase d with
  | unprintable hp hd =>
    rw [lines_step_of_unprintable (c := .diagnostic d) hp, hd, hp]
    rfl
  | known hf hk _ hres =>
    have h : r.repeats (.diagnostic d) = true := repeats_diagnostic hf ▸ hk
    rw [lines_step_of_repeats h, hres, h, Bool.not_true, Bool.and_false]
    rfl
  | new hf hk _ hmessages _ hres =>
    have h : r.repeats (.diagnostic d) = false := repeats_diagnostic hf ▸ hk
    rw [lines_step_of_ne_announce (by simp), due_of_not_repeats h, hmessages, h,
      isPrintable_of_fingerprint? hf]
    simp only [perform, Reply.map, landed_map]
    have hne : (r.diagnostic d).result ≠ .error .unprintable := hres ▸ mapError_ne_unprintable _
    rcases hresult : (r.diagnostic d).result with (_ | _ | _) | ⟨⟩
    · exact absurd hresult hne
    · rfl
    · rfl
    · rfl

theorem length_lines_le (r : Reporter) (d : Diagnostic) :
    (Step.lines ⟨r, .diagnostic d⟩).length ≤ if Step.tried ⟨r, .diagnostic d⟩ then 1 else 0 := by
  rw [tried_diagnostic]
  rcases printable_or_not r.settings d with hp | ⟨key, pairs, hf, -, hmessages⟩
  · rw [lines_step_of_unprintable (c := .diagnostic d) hp]
    exact Nat.zero_le _
  · rw [isPrintable_of_fingerprint? hf, Bool.true_and]
    cases h : r.repeats (.diagnostic d) with
    | true => simp [lines_step_of_repeats h]
    | false =>
      rw [lines_step_of_ne_announce (by simp), due_of_not_repeats h, hmessages]
      split <;> simp

/-- A finding is tried by the first call about it, if at all. -/
theorem countP_tried_le (settings : Settings) (stream : Stream) (d : Diagnostic)
    (calls : List Call) :
    ((new settings stream).steps calls).countP (fun t => t.call = .diagnostic d && t.tried) ≤
      if d ∈ calls.filterMap Call.finding? then 1 else 0 := by
  induction calls using List.reverseRecOn with
  | nil => simp [steps]
  | append_singleton cs c ih =>
    rw [steps_append, List.countP_append, List.countP_singleton, List.filterMap_append]
    by_cases hd : d ∈ cs.filterMap Call.finding?
    · -- Known already: this call does not turn to the stream.
      have hnot : ¬ (decide (c = .diagnostic d) &&
          Step.tried ⟨(new settings stream).performAll cs, c⟩) = true := by
        simp only [Bool.and_eq_true, decide_eq_true_eq, not_and]
        rintro rfl
        rw [tried_diagnostic, (noted_run settings stream cs).repeats_eq, Call.repeats,
          decide_eq_true hd]
        cases d.isPrintable <;> decide
      rw [if_pos hd] at ih
      rw [if_neg hnot, if_pos (List.mem_append_left _ hd)]
      exact ih
    · rw [if_neg hd] at ih
      by_cases hc : c = .diagnostic d
      · have hmem : d ∈ cs.filterMap Call.finding? ++ [c].filterMap Call.finding? := by
          simp [hc, Call.finding?]
        rw [if_pos hmem]
        split <;> omega
      · simp only [hc, decide_false, Bool.false_and, Bool.false_eq_true, if_false]
        omega

theorem length_lines_of_finding_le (d : Diagnostic) : ∀ ts : List Step,
    ((ts.filter fun t => t.call = .diagnostic d).flatMap Step.lines).length ≤
      ts.countP fun t => t.call = .diagnostic d && t.tried
  | [] => by simp
  | ⟨r, c⟩ :: ts => by
    have ih := length_lines_of_finding_le d ts
    rw [List.filter_cons, List.countP_cons]
    split
    next hc =>
      obtain rfl : c = .diagnostic d := of_decide_eq_true hc
      have := length_lines_le r d
      simp only [List.flatMap_cons, List.length_append, decide_true, Bool.true_and]
      omega
    next => omega

/-- Calls raise for a number that is too long just when there is one among their findings. -/
theorem countP_unprintable_steps (settings : Settings) (stream : Stream) (calls : List Call) :
    ((new settings stream).steps calls).countP (·.failed .unprintable) =
      calls.countP (!·.isPrintable) := by
  conv_rhs => rw [← map_call_steps (new settings stream) calls, List.countP_map]
  exact List.countP_congr fun t _ => by rw [failed_unprintable t.before t.call]; rfl

/-- **The accounts of a run, whatever writes and flushes fail.** The text of the stream is lines
of messages of the calls and nothing else. A call about a given finding turns to the stream at
most once in the run, so at most one line stems from it. Each call about a finding was emitted,
suppressed or raised, and the lines about findings are as many as were emitted or raised when
flushed. The findings known are those emitted and those that raised, but for those that cannot be
printed: so they are as many as were emitted or raised just when no call is about such a finding. -/
theorem accounts (settings : Settings) (writes flushes : List Bool) (calls : List Call) :
    let start := new settings (.planned writes flushes)
    let r := start.performAll calls
    let ts := start.steps calls
    (∃ ms : List Message,
        r.stream.text = Stream.textOf (ms.map Message.line) ∧
        Message.decodeAll? r.stream.text = some (ms.map Message.sorted) ∧
        (∀ m ∈ ms, ∃ c ∈ calls, m ∈ c.messages settings) ∧
        ms.countP Message.isInspection =
          r.emitted + ts.countP fun t => t.isFinding && t.failed .flush) ∧
      (∀ d : Diagnostic,
        ts.countP (fun t => t.call = .diagnostic d && t.tried) ≤ 1 ∧
        ((ts.filter fun t => t.call = .diagnostic d).flatMap Step.lines).length ≤ 1) ∧
      r.emitted + r.suppressed + ts.countP (fun t => t.isFinding && t.raised) =
        ts.countP Step.isFinding ∧
      r.seen.size + calls.countP (!·.isPrintable) =
        r.emitted + ts.countP (fun t => t.isFinding && t.raised) ∧
      (r.seen.size = r.emitted + ts.countP (fun t => t.isFinding && t.raised) ↔
        ∀ c ∈ calls, c.isPrintable = true) := by
  obtain ⟨hcalls, hknown, ms, hlines, hmem, hcount⟩ :=
    balanced_run settings (.planned writes flushes) calls
  rw [countP_unprintable_steps] at hknown
  have htext : ((new settings (.planned writes flushes)).performAll calls).stream.text =
      Stream.textOf (ms.map Message.line) := congrArg Stream.textOf hlines
  have htried : ∀ d : Diagnostic, ((new settings (.planned writes flushes)).steps calls).countP
      (fun t => t.call = .diagnostic d && t.tried) ≤ 1 := by
    intro d
    have := countP_tried_le settings (.planned writes flushes) d calls
    split at this <;> omega
  have hwell : ∀ m ∈ ms, m.WellNamed := by
    intro m hm
    obtain ⟨c, -, hc⟩ := hmem m hm
    exact wellNamed_of_mem_messages hc
  have hprintable : calls.countP (!·.isPrintable) = 0 ↔ ∀ c ∈ calls, c.isPrintable = true := by
    simp [List.countP_eq_zero]
  refine ⟨⟨ms, htext, ?_, hmem, hcount⟩, fun d => ⟨htried d, ?_⟩, hcalls, hknown, ?_⟩
  · rw [htext]
    exact Message.decodeAll?_textOf hwell
  · exact Nat.le_trans (length_lines_of_finding_le d _) (htried d)
  · rw [← hprintable]
    omega

/-- The call about a finding with a number of one digit too many raises, and the finding is not
known. -/
theorem long_number_raised_unknown :
    let d : Diagnostic := .make "k" "s" "" .none false (10 ^ 4300) [] ""
    let start := new .default (.planned [] [])
    let r := start.performAll [.diagnostic d]
    let ts := start.steps [.diagnostic d]
    ts.countP (fun t => t.isFinding && t.raised) = 1 ∧ r.emitted = 0 ∧ r.seen.size = 0 := by
  intro d start r ts
  have hp : (Call.diagnostic d).isPrintable = false := by
    rw [Call.isPrintable_diagnostic]
    exact Diagnostic.not_isPrintable_of_cwe rfl
  have hr : r = start := by
    rw [show r = start.performAll [.diagnostic d] from rfl, performAll_singleton]
    exact (perform_unprintable hp).2
  have hraised : Step.raised ⟨start, .diagnostic d⟩ = true := by
    rw [Step.raised, failed_unprintable, hp]
    rfl
  refine ⟨?_, by rw [hr]; rfl, by rw [hr]; simp [start, new]⟩
  rw [show ts = [⟨start, .diagnostic d⟩] from rfl, List.countP_singleton, hraised]
  rfl

end Reporter

end InspectionFeed
