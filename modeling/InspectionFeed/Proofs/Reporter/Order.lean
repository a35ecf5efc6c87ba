/-
Runs that differ in the order of their calls. What a report says about findings
follows from the findings alone, each at its first place, and what it says
about progress from the steps of progress alone, each that differs from the one
before (`filter_report`). So neither depends on what other calls lie between,
and findings in another order give the same notes, the same counts and the same
lines (`run_of_reordered`).

The settings decide how a finding is shown but not which ones are known.
-/
import InspectionFeed.Proofs.Reporter.Accounts
import Mathlib.Data.List.Perm.Basic

namespace InspectionFeed

section News

variable {α : Type} {repeated : List α → α → Bool} {a : α} {earlier as bs : List α}

/-- What does not repeat what was there before it. -/
def news (repeated : List α → α → Bool) (earlier : List α) : List α → List α
  | [] => []
  | a :: as =>
    (if repeated earlier a then [] else [a]) ++ news repeated (earlier ++ [a]) as

variable [DecidableEq α]

/-- Each thing once, at its first place. -/
def firsts (as : List α) : List α := news (fun earlier a => a ∈ earlier) [] as

/-- The things that differ from the one before. -/
def changes (as : List α) : List α := news (fun earlier a => earlier.getLast? = some a) [] as

theorem mem_news_mem :
    a ∈ news (fun earlier a => a ∈ earlier) earlier as ↔ a ∈ as ∧ a ∉ earlier := by
  induction as generalizing earlier with
  | nil => simp [news]
  | cons b as ih =>
    simp only [news, List.mem_append, ih, List.mem_cons, List.not_mem_nil, or_false, not_or,
      decide_eq_true_eq]
    by_cases hb : b ∈ earlier
    · have hne : a ∉ earlier → a ≠ b := by
        rintro ha rfl
        exact ha hb
      simp only [hb, if_true, List.not_mem_nil, false_or]
      tauto
    · simp only [hb, if_false, List.mem_singleton]
      by_cases ha : a = b
      · simp [ha, hb]
      · simp [ha]

theorem nodup_news_mem (earlier as : List α) :
    (news (fun earlier a => a ∈ earlier) earlier as).Nodup := by
  induction as generalizing earlier with
  | nil => exact List.nodup_nil
  | cons a as ih =>
    rw [news]
    split
    · exact ih _
    · refine List.nodup_cons.2 ⟨fun h => ?_, ih _⟩
      exact (mem_news_mem.1 h).2 (by simp)

/-- The same things in another order, each said any number of times, have the same first
occurrences in another order. -/
theorem perm_firsts (h : ∀ a, a ∈ as ↔ a ∈ bs) : (firsts as).Perm (firsts bs) := by
  rw [firsts, firsts, List.perm_ext_iff_of_nodup (nodup_news_mem _ _) (nodup_news_mem _ _)]
  intro a
  simp [mem_news_mem, h]

end News

namespace Call

variable {α : Type}

/-! ## The messages of a report, by their names -/

theorem name_of_mem_announce {detailed : Bool} {ps : List Provider} {m : Message}
    (h : m ∈ ps.flatMap (Provider.messages detailed)) : m.name = "inspectionType" := by
  obtain ⟨e, rfl⟩ := Reporter.exists_description_of_mem_messages h
  rfl

/-- The finding that a call is about and that can be printed. -/
def printed? (c : Call) : Option Diagnostic := c.finding?.filter Diagnostic.isPrintable

theorem filterMap_printed? (cs : List Call) :
    cs.filterMap printed? = (cs.filterMap finding?).filter Diagnostic.isPrintable := by
  rw [List.filter_filterMap]
  rfl

theorem filter_messages_inspection (s : Settings) (c : Call) :
    (c.messages s).filter (·.name = "inspection") =
      (c.printed?.map fun d => Message.inspection ((Reporter.attributes? s d).getD [])).toList := by
  cases c with
  | plain text => rfl
  | progress subject stage value => rfl
  | diagnostic d =>
    rcases Reporter.printable_or_not s d with hp | ⟨key, pairs, hf, hpairs, hmessages⟩
    · simp [messages, printed?, finding?, hp]
    · have hprinted : (diagnostic d).printed? = some d := by
        simp [printed?, finding?, Reporter.isPrintable_of_fingerprint? hf]
      rw [hmessages, hprinted, Option.map_some, hpairs]
      rfl
  | announce ps => exact List.filter_eq_nil_iff.2 fun m hm => by simp [name_of_mem_announce hm]

theorem filter_messages_progress (s : Settings) (c : Call) :
    (c.messages s).filter (·.name = "progressMessage") =
      (c.step?.map fun p => Message.progress p.1 p.2).toList := by
  cases c with
  | plain text => rfl
  | progress subject stage value => rfl
  | diagnostic d =>
    refine List.filter_eq_nil_iff.2 fun m hm => ?_
    obtain ⟨pairs, -, rfl⟩ := Reporter.exists_attributes_of_mem_messages hm
    simp [Message.inspection]
  | announce ps => exact List.filter_eq_nil_iff.2 fun m hm => by simp [name_of_mem_announce hm]

/-- The messages of one name, where calls about one thing give one such message and others give
none, follow from those things alone, whatever stands between. -/
theorem filter_report {s : Settings} {name : String} {thing? : Call → Option α}
    {message : α → Message} {repeated : List α → α → Bool}
    (hmessages : ∀ c : Call,
      (c.messages s).filter (·.name = name) = ((thing? c).map message).toList)
    (hrepeats : ∀ (c : Call) (a : α) (earlier : List Call), thing? c = some a →
      c.repeats earlier = repeated (earlier.filterMap thing?) a)
    (earlier cs : List Call) :
    (report s earlier cs).filter (·.name = name) =
      (news repeated (earlier.filterMap thing?) (cs.filterMap thing?)).map message := by
  induction cs generalizing earlier with
  | nil => rfl
  | cons c cs ih =>
    rw [report, List.filter_append, ih, List.filterMap_append]
    cases hc : thing? c with
    | none =>
      have hsilent : (if c.repeats earlier then [] else c.messages s).filter (·.name = name) =
          [] := by
        split
        · rfl
        · rw [hmessages, hc]; rfl
      rw [hsilent, List.filterMap_cons_none hc, List.filterMap_cons_none hc]
      simp
    | some a =>
      have hsaid : (if c.repeats earlier then [] else c.messages s).filter (·.name = name) =
          (if repeated (earlier.filterMap thing?) a then [] else [a]).map message := by
        rw [hrepeats c a earlier hc]
        split
        · rfl
        · rw [hmessages, hc]; rfl
      rw [hsaid, List.filterMap_cons_some hc, List.filterMap_cons_some hc, news, List.map_append]
      rfl

theorem filter_report_inspection (s : Settings) (cs : List Call) :
    (report s [] cs).filter (·.name = "inspection") =
      (firsts (cs.filterMap printed?)).map
        fun d => .inspection ((Reporter.attributes? s d).getD []) := by
  refine filter_report (filter_messages_inspection s) (fun c d earlier hc => ?_) [] cs
  obtain ⟨hd, hp⟩ := Option.filter_eq_some_iff.1 hc
  obtain rfl := eq_diagnostic_of_finding? hd
  simp [repeats, filterMap_printed?, hp]

theorem filter_report_progress (s : Settings) (cs : List Call) :
    (report s [] cs).filter (·.name = "progressMessage") =
      (changes (cs.filterMap step?)).map fun p => .progress p.1 p.2 := by
  refine filter_report (filter_messages_progress s) (fun c p earlier hc => ?_) [] cs
  cases c <;> cases hc
  rfl

end Call

namespace Reporter

variable {stream stream₁ stream₂ : Stream} {calls₁ calls₂ : List Call}

/-! ## The lines of a run, by the names of their messages -/

/-- The lines that are messages of that name. -/
def linesNamed (name : String) (lines : List String) : List String :=
  lines.filter fun l => (Message.decode? l).any (·.name = name)

/-- The lines that a run added to the stream it began with. -/
def added (stream : Stream) (r : Reporter) : List String :=
  r.stream.lines.drop stream.lines.length

theorem linesNamed_map_line {name : String} {ms : List Message} (h : ∀ m ∈ ms, m.WellNamed) :
    linesNamed name (ms.map Message.line) = (ms.filter (·.name = name)).map Message.line := by
  rw [linesNamed, List.filter_map]
  refine congrArg _ (List.filter_congr fun m hm => ?_)
  rw [Function.comp_apply, Message.decode?_line (h m hm)]
  rfl

theorem linesNamed_added (s : Settings) (h : stream.Reliable) (name : String)
    (calls : List Call) :
    linesNamed name (added stream ((new s stream).performAll calls)) =
      ((Call.report s [] calls).filter (·.name = name)).map Message.line := by
  rw [added, lines_run s h, List.drop_left]
  exact linesNamed_map_line fun m hm => wellNamed_of_mem_report hm

/-- The lines about findings are those of the findings that can be printed, each at its first
place. -/
theorem inspections_added (s : Settings) (h : stream.Reliable) (calls : List Call) :
    linesNamed "inspection" (added stream ((new s stream).performAll calls)) =
      (firsts (calls.filterMap Call.printed?)).map
        fun d => (Message.inspection ((attributes? s d).getD [])).line := by
  rw [linesNamed_added s h, Call.filter_report_inspection, List.map_map]
  rfl

/-- The lines about progress are those of its steps that differ from the one before. -/
theorem progress_added (s : Settings) (h : stream.Reliable) (calls : List Call) :
    linesNamed "progressMessage" (added stream ((new s stream).performAll calls)) =
      (changes (calls.filterMap Call.step?)).map
        fun p => (Message.progress p.1 p.2).line := by
  rw [linesNamed_added s h, Call.filter_report_progress, List.map_map]
  rfl

/-! ## The numbers of a run on which nothing fails -/

theorem countP_isFinding_steps (r : Reporter) (calls : List Call) :
    (r.steps calls).countP Step.isFinding = (calls.filterMap Call.finding?).length := by
  rw [List.length_filterMap_eq_countP]
  conv_rhs => rw [← map_call_steps r calls, List.countP_map]
  rfl

/-- Where nothing else fails, calls raise just for findings that cannot be printed. -/
theorem countP_raised_steps (h : stream.Reliable) (s : Settings) (calls : List Call) :
    ((new s stream).steps calls).countP (fun t => t.isFinding && t.raised) =
      ((new s stream).steps calls).countP (·.failed .unprintable) := by
  refine List.countP_congr fun t ht => ?_
  rw [failed_unprintable t.before t.call]
  cases hp : t.call.isPrintable with
  | true =>
    obtain ⟨v, hv⟩ := result_of_mem_steps h ht hp
    simp [Step.raised, Step.failed, hv]
  | false =>
    have hfinding : t.isFinding = true := by
      rw [Step.isFinding]
      cases hc : t.call.finding? with
      | none =>
        rw [Call.isPrintable, hc] at hp
        cases hp
      | some d => rfl
    have hraised : t.failed .unprintable = true := by
      rw [failed_unprintable t.before t.call, hp]
      rfl
    simp [hfinding, Step.raised, hraised]

theorem countP_isPrintable (calls : List Call) :
    calls.countP (!·.isPrintable) =
      (calls.filterMap Call.finding?).countP (!·.isPrintable) := by
  rw [List.countP_filterMap]
  exact List.countP_congr fun c _ => by
    rw [Call.isPrintable]
    cases c.finding? <;> simp

theorem counts_run (s : Settings) (h : stream.Reliable) (calls : List Call) :
    let r := (new s stream).performAll calls
    r.emitted = r.seen.size ∧
      r.emitted + r.suppressed + (calls.filterMap Call.finding?).countP (!·.isPrintable) =
        (calls.filterMap Call.finding?).length := by
  intro r
  obtain ⟨hcalls, hknown, -⟩ := balanced_run s stream calls
  rw [countP_raised_steps h, countP_isFinding_steps, countP_unprintable_steps,
    countP_isPrintable] at hcalls
  rw [countP_raised_steps h] at hknown
  exact ⟨(Nat.add_right_cancel hknown).symm, hcalls⟩

/-- Runs about the same findings know the same, whatever their settings and streams. -/
theorem seen_equiv (s₁ s₂ : Settings) (stream₁ stream₂ : Stream)
    (h : ∀ d, d ∈ calls₁.filterMap Call.finding? ↔ d ∈ calls₂.filterMap Call.finding?) :
    ((new s₁ stream₁).performAll calls₁).seen.Equiv ((new s₂ stream₂).performAll calls₂).seen := by
  refine Std.HashSet.Equiv.of_forall_contains_eq fun key => ?_
  rw [Bool.eq_iff_iff, (noted_run s₁ stream₁ calls₁).contains_iff,
    (noted_run s₂ stream₂ calls₂).contains_iff]
  simp only [h]

/-- **Order and interleaving do not matter**, on streams on which nothing fails. Two runs whose
findings are the same in another order know the same findings and have the same counts, also
under different settings; under the same settings they write the same lines about findings, in
another order. Two runs with the same steps of progress write the same lines about progress,
however other calls lie between. -/
theorem run_of_reordered (s₁ s₂ : Settings) (h₁ : stream₁.Reliable) (h₂ : stream₂.Reliable)
    (calls₁ calls₂ : List Call) :
    let r₁ := (new s₁ stream₁).performAll calls₁
    let r₂ := (new s₂ stream₂).performAll calls₂
    ((calls₁.filterMap Call.finding?).Perm (calls₂.filterMap Call.finding?) →
      r₁.seen.Equiv r₂.seen ∧ r₁.emitted = r₂.emitted ∧ r₁.suppressed = r₂.suppressed ∧
        (s₁ = s₂ → (linesNamed "inspection" (added stream₁ r₁)).Perm
          (linesNamed "inspection" (added stream₂ r₂)))) ∧
    (calls₁.filterMap Call.step? = calls₂.filterMap Call.step? →
      linesNamed "progressMessage" (added stream₁ r₁) =
        linesNamed "progressMessage" (added stream₂ r₂)) := by
  intro r₁ r₂
  refine ⟨fun hperm => ?_, fun hsteps => ?_⟩
  · have hseen : r₁.seen.Equiv r₂.seen := seen_equiv s₁ s₂ stream₁ stream₂ fun d => hperm.mem_iff
    obtain ⟨hemitted₁, hall₁⟩ := counts_run s₁ h₁ calls₁
    obtain ⟨hemitted₂, hall₂⟩ := counts_run s₂ h₂ calls₂
    have hemitted : r₁.emitted = r₂.emitted :=
      hemitted₁.trans (hseen.size_eq.trans hemitted₂.symm)
    have hall : r₁.emitted + r₁.suppressed + _ = r₂.emitted + r₂.suppressed + _ :=
      hall₁.trans (hperm.length_eq.trans hall₂.symm)
    rw [hperm.countP_eq] at hall
    refine ⟨hseen, hemitted, by omega, ?_⟩
    rintro rfl
    rw [inspections_added s₁ h₁, inspections_added s₁ h₂]
    rw [Call.filterMap_printed?, Call.filterMap_printed?]
    exact (perm_firsts fun d => (hperm.filter _).mem_iff).map _
  · rw [progress_added s₁ h₁, progress_added s₂ h₂, hsteps]

/-- Two analyzers report to one run, once in turns and once one after the other. -/
theorem run_of_interleaved :
    let nullPointer : Diagnostic := .make "nullPointer" "Null pointer" "" .none false 0 [] ""
    let leak : Diagnostic := .make "memoryLeak" "Memory leak" "" .none false 401 [] ""
    let inTurns : List Call := [.progress "a.c" "parsing" 0, .diagnostic nullPointer,
      .plain "done", .diagnostic leak, .progress "a.c" "parsing" 50, .diagnostic leak]
    let oneByOne : List Call := [.diagnostic leak, .diagnostic leak, .diagnostic nullPointer,
      .progress "a.c" "parsing" 0, .progress "a.c" "parsing" 100]
    let r₁ := (new .default .empty).performAll inTurns
    let r₂ := (new .default .empty).performAll oneByOne
    inTurns.filterMap Call.finding? ≠ oneByOne.filterMap Call.finding? ∧
      r₁.seen.Equiv r₂.seen ∧ r₁.emitted = r₂.emitted ∧ r₁.suppressed = r₂.suppressed ∧
      (linesNamed "inspection" (added .empty r₁)).Perm
        (linesNamed "inspection" (added .empty r₂)) ∧
      linesNamed "progressMessage" (added .empty r₁) =
        linesNamed "progressMessage" (added .empty r₂) := by
  intro nullPointer leak inTurns oneByOne r₁ r₂
  have hperm : (inTurns.filterMap Call.finding?).Perm (oneByOne.filterMap Call.finding?) := by
    decide
  obtain ⟨hfindings, hprogress⟩ := run_of_reordered .default .default Stream.reliable_empty
    Stream.reliable_empty inTurns oneByOne
  obtain ⟨hseen, hemitted, hsuppressed, hlines⟩ := hfindings hperm
  exact ⟨by decide, hseen, hemitted, hsuppressed, hlines rfl, hprogress rfl⟩

end Reporter

end InspectionFeed
