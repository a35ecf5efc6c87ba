/-
Calls to a reporter, one at a time and in a row, on streams that may fail.

What a reporter notes depends on the calls alone (`Noted`): the last progress
it knows is that of the last call about progress, and the findings it knows
are those of all calls about findings that can be printed, whether or not their
messages could be written. Each call adds whole messages to the stream, the ones
that its notes ask for (`due`), and all of them unless it fails (`lines_perform`).
A call about a finding that cannot be printed changes nothing.
-/
import InspectionFeed.Proofs.Announcement
import InspectionFeed.Proofs.Fingerprint
import InspectionFeed.Reporter.Basic
import Std.Data.HashSet.Lemmas

namespace InspectionFeed

/-- A call to a reporter. The amount of progress is part of the call but of no message. -/
inductive Call
  | plain (text : String)
  | progress (subject stage : String) (value : Int)
  | diagnostic (d : Diagnostic)
  | announce (providers : List Provider)
  deriving DecidableEq

namespace Call

/-- The finding that a call is about. -/
def finding? : Call → Option Diagnostic
  | .diagnostic d => some d
  | _ => none

theorem eq_diagnostic_of_finding? {c : Call} {d : Diagnostic} (h : c.finding? = some d) :
    c = .diagnostic d := by
  cases c <;> simp_all [finding?]

/-- The call is about no finding that cannot be printed. -/
def isPrintable (c : Call) : Bool := c.finding?.all Diagnostic.isPrintable

@[simp] theorem isPrintable_diagnostic (d : Diagnostic) :
    (diagnostic d).isPrintable = d.isPrintable := rfl

/-- Subject and stage that a call is about. -/
def step? : Call → Option (String × String)
  | .progress subject stage _ => some (subject, stage)
  | _ => none

/-- The call is about something that the reporter notes: a step of progress or a finding. -/
def isNoted (c : Call) : Bool := c.step?.isSome || c.finding?.isSome

/-- The messages that a call is about, unless it says again what was said. A finding that cannot
be printed has none. -/
def messages (s : Settings) : Call → List Message
  | .plain text => [.plain text]
  | .progress subject stage _ => [.progress subject stage]
  | .diagnostic d =>
    if d.isPrintable then (Reporter.attributes? s d).toList.map Message.inspection else []
  | .announce ps => ps.flatMap (Provider.messages s.verbose)

end Call

namespace Reporter

/-- The same reply with another result. -/
def Reply.map {α β : Type} (f : α → β) (x : Reply α) : Reply β :=
  ⟨x.reporter, x.events, x.result.map f⟩

/-- Makes a call. Only announcements have a result, their count. -/
def perform (r : Reporter) : Call → Reply (Option Nat)
  | .plain text => (r.plain text).map fun _ => none
  | .progress subject stage _ => (r.progress subject stage).map fun _ => none
  | .diagnostic d => (r.diagnostic d).map fun _ => none
  | .announce ps => (r.announce ps).map some

/-- The call says again what the reporter has noted. -/
def repeats (r : Reporter) : Call → Bool
  | .progress subject stage _ => r.lastProgress = some (subject, stage)
  | .diagnostic d => d.fingerprint?.any r.seen.contains
  | _ => false

/-- The messages that a call is to write. -/
def due (r : Reporter) (c : Call) : List Message :=
  if r.repeats c then [] else c.messages r.settings

/-- The message of a call is on the stream, as what the call gave tells: a failed flush leaves it
there. -/
def landed {α : Type} : Except Fault α → Bool
  | .error .unprintable => false
  | .error .write => false
  | .error .flush => true
  | .ok _ => true

variable {r : Reporter} {d : Diagnostic} {subject stage key : String}
  {pairs : List (String × String)}

/-! ## What a finding prints -/

theorem exists_fingerprint? (hp : d.isPrintable = true) : ∃ key, d.fingerprint? = some key :=
  Option.isSome_iff_exists.1 (d.isSome_fingerprint?.trans hp)

theorem isPrintable_of_fingerprint? (h : d.fingerprint? = some key) : d.isPrintable = true := by
  rw [← d.isSome_fingerprint?, h, Option.isSome_some]

theorem fingerprint?_eq_none (hp : d.isPrintable = false) : d.fingerprint? = none := by
  rw [← Option.not_isSome_iff_eq_none, d.isSome_fingerprint?, hp]
  decide

theorem isSome_printed?_of_isPrintable (hp : d.isPrintable = true) {i : Int} (hi : i ∈ d.numbers) :
    (Text.printed? i).isSome = true := by
  rw [Text.isSome_printed?]
  exact List.all_eq_true.1 hp i hi

/-- The numbers of a message about a finding are numbers of the finding. -/
theorem exists_attributes? (s : Settings) (hp : d.isPrintable = true) :
    ∃ pairs, attributes? s d = some pairs := by
  obtain ⟨place, hplace⟩ : ∃ place, placePairs? d = some place := by
    unfold placePairs?
    split
    next l hl =>
      have hmem : l ∈ d.frames := List.mem_of_head? hl
      have hnumbers : ∀ i ∈ [l.line, l.column], i ∈ d.numbers := fun i hi =>
        List.mem_cons_of_mem _ (List.mem_flatMap.2 ⟨l, hmem, hi⟩)
      obtain ⟨line, hline⟩ := Option.isSome_iff_exists.1
        (isSome_printed?_of_isPrintable hp (hnumbers l.line (by simp)))
      obtain ⟨column, hcolumn⟩ := Option.isSome_iff_exists.1
        (isSome_printed?_of_isPrintable hp (hnumbers l.column (by simp)))
      exact ⟨_, by rw [hline, hcolumn]; rfl⟩
    next => exact ⟨_, rfl⟩
  obtain ⟨weakness, hweakness⟩ : ∃ weakness, classPairs? d = some weakness := by
    unfold classPairs?
    split
    · obtain ⟨n, hn⟩ := Option.isSome_iff_exists.1
        (isSome_printed?_of_isPrintable hp (List.mem_cons_self : d.cwe ∈ d.numbers))
      exact ⟨_, by rw [hn]; rfl⟩
    · exact ⟨_, rfl⟩
  exact ⟨_, by rw [attributes?, hplace, hweakness]; rfl⟩

/-! ## The cases of a call -/

theorem progress_repeated (h : r.lastProgress = some (subject, stage)) :
    (r.progress subject stage).reporter = r ∧ (r.progress subject stage).result = .ok () := by
  unfold progress
  rw [if_pos h]
  exact ⟨rfl, rfl⟩

theorem progress_new (h : r.lastProgress ≠ some (subject, stage)) :
    (r.progress subject stage).reporter =
        { r with
          lastProgress := some (subject, stage)
          stream := (r.stream.putLine (Message.progress subject stage).line).1 } ∧
      (r.progress subject stage).result =
        (r.stream.putLine (Message.progress subject stage).line).2.mapError .ofStream := by
  unfold progress
  rw [if_neg h]
  exact ⟨rfl, rfl⟩

theorem diagnostic_unprintable (hp : d.isPrintable = false) :
    r.diagnostic d = ⟨r, [], .error .unprintable⟩ := by
  rw [diagnostic, fingerprint?_eq_none hp]

theorem diagnostic_known (hf : d.fingerprint? = some key) (h : r.seen.contains key = true) :
    (r.diagnostic d).reporter = { r with suppressed := r.suppressed + 1 } ∧
      (r.diagnostic d).result = .ok () := by
  unfold diagnostic
  rw [hf]
  dsimp only
  rw [if_pos h]
  exact ⟨rfl, rfl⟩

theorem diagnostic_new (hf : d.fingerprint? = some key)
    (hpairs : attributes? r.settings d = some pairs) (h : r.seen.contains key = false) :
    (r.diagnostic d).reporter =
        { r with
          seen := r.seen.insert key
          stream := (r.stream.putLine (Message.inspection pairs).line).1
          emitted := r.emitted +
            if (r.stream.putLine (Message.inspection pairs).line).2 = .ok () then 1 else 0 } ∧
      (r.diagnostic d).result =
        (r.stream.putLine (Message.inspection pairs).line).2.mapError .ofStream := by
  simp only [diagnostic, hf, h, Bool.false_eq_true, if_false, hpairs, write]
  rcases hp : r.stream.putLine (Message.inspection pairs).line with ⟨stream, fault | ⟨⟩⟩
  · exact ⟨rfl, rfl⟩
  · exact ⟨rfl, rfl⟩

/-- A finding that can be printed has a fingerprint and attributes. -/
theorem printable_or_not (s : Settings) (d : Diagnostic) :
    d.isPrintable = false ∨
      ∃ key pairs, d.fingerprint? = some key ∧ attributes? s d = some pairs ∧
        (Call.diagnostic d).messages s = [.inspection pairs] := by
  cases hp : d.isPrintable with
  | false => exact .inl rfl
  | true =>
    obtain ⟨key, hf⟩ := exists_fingerprint? hp
    obtain ⟨pairs, hpairs⟩ := exists_attributes? s hp
    refine .inr ⟨key, pairs, hf, hpairs, ?_⟩
    rw [Call.messages, if_pos hp, hpairs]
    rfl

/-- What a call about a finding does. It fails at once if the finding cannot be printed, only counts
if the finding is known, and otherwise ends as the writing of its message does. -/
inductive FindingCase (r : Reporter) (d : Diagnostic) : Prop
  | unprintable (hp : d.isPrintable = false)
    (hd : r.diagnostic d = ⟨r, [], .error .unprintable⟩)
  | known {key : String} (hf : d.fingerprint? = some key) (hk : r.seen.contains key = true)
    (hr : (r.diagnostic d).reporter = { r with suppressed := r.suppressed + 1 })
    (hres : (r.diagnostic d).result = .ok ())
  | new {key : String} {pairs : List (String × String)} (hf : d.fingerprint? = some key)
    (hk : r.seen.contains key = false) (hpairs : attributes? r.settings d = some pairs)
    (hmessages : (Call.diagnostic d).messages r.settings = [.inspection pairs])
    (hr : (r.diagnostic d).reporter =
      { r with
        seen := r.seen.insert key
        stream := (r.stream.putLine (Message.inspection pairs).line).1
        emitted := r.emitted +
          if (r.stream.putLine (Message.inspection pairs).line).2 = .ok () then 1 else 0 })
    (hres : (r.diagnostic d).result =
      (r.stream.putLine (Message.inspection pairs).line).2.mapError .ofStream)

theorem findingCase (r : Reporter) (d : Diagnostic) : FindingCase r d := by
  rcases printable_or_not r.settings d with hp | ⟨key, pairs, hf, hpairs, hmessages⟩
  · exact .unprintable hp (diagnostic_unprintable hp)
  · cases hk : r.seen.contains key with
    | true =>
      obtain ⟨hr, hres⟩ := diagnostic_known hf hk
      exact .known hf hk hr hres
    | false =>
      obtain ⟨hr, hres⟩ := diagnostic_new hf hpairs hk
      exact .new hf hk hpairs hmessages hr hres

theorem repeats_diagnostic (hf : d.fingerprint? = some key) :
    r.repeats (.diagnostic d) = r.seen.contains key := by
  rw [repeats, hf, Option.any_some]

theorem repeats_unprintable (hp : d.isPrintable = false) : r.repeats (.diagnostic d) = false := by
  rw [repeats, fingerprint?_eq_none hp, Option.any_none]

theorem announce_told (r : Reporter) (ps : List Provider) :
    Announcement.Told r.stream r.settings.verbose
      (ps.flatMap (Provider.messages r.settings.verbose))
      ((Announcement.start r.stream r.settings.verbose).askAll ps) :=
  (Announcement.told_start r.stream r.settings.verbose).askAll ps

/-- A repetition gives a result and writes nothing. -/
theorem perform_of_repeats {c : Call} (h : r.repeats c = true) :
    (r.perform c).result = .ok none ∧ (r.perform c).reporter.stream = r.stream := by
  cases c with
  | plain text => cases h
  | progress subject stage value =>
    obtain ⟨hr, hres⟩ := progress_repeated (of_decide_eq_true h)
    exact ⟨by simp [perform, Reply.map, hres, Except.map], by simp [perform, Reply.map, hr]⟩
  | diagnostic d =>
    obtain ⟨key, hf, hk⟩ := (Option.any_eq_true ..).1 h
    obtain ⟨hr, hres⟩ := diagnostic_known hf hk
    exact ⟨by simp [perform, Reply.map, hres, Except.map], by simp [perform, Reply.map, hr]⟩
  | announce ps => cases h

/-- A call about a finding that cannot be printed fails and changes nothing. -/
theorem perform_unprintable {c : Call} (h : c.isPrintable = false) :
    (r.perform c).result = .error .unprintable ∧ (r.perform c).reporter = r := by
  cases c with
  | diagnostic d =>
    rw [perform, diagnostic_unprintable h]
    exact ⟨rfl, rfl⟩
  | _ => cases h

/-! ## What a call adds to the stream -/

theorem landed_map {α β : Type} (f : α → β) (x : Except Fault α) : landed (x.map f) = landed x := by
  rcases x with (_ | _ | _) | _ <;> rfl

theorem landed_mapError (x : Except Stream.Fault Unit) :
    landed (x.mapError .ofStream) = Stream.landed x := by
  rcases x with (_ | _) | _ <;> rfl

theorem map_eq_error_iff {α β : Type} {f : α → β} {x : Except Fault α} {fault : Fault} :
    x.map f = .error fault ↔ x = .error fault := by
  cases x <;> simp [Except.map]

theorem mapError_eq_ok_iff {x : Except Stream.Fault Unit} :
    x.mapError Fault.ofStream = .ok () ↔ x = .ok () := by
  rcases x with (_ | _) | _ <;> simp [Except.mapError]

theorem mapError_ne_unprintable (x : Except Stream.Fault Unit) :
    x.mapError Fault.ofStream ≠ .error .unprintable := by
  rcases x with (_ | _) | _ <;> nofun

theorem due_of_repeats {c : Call} (h : r.repeats c = true) : r.due c = [] := if_pos h

theorem due_of_not_repeats {c : Call} (h : r.repeats c = false) :
    r.due c = c.messages r.settings := by
  simp [due, h]

theorem lines_putLine (r : Reporter) (line : String) :
    (r.stream.putLine line).1.lines = r.stream.lines ++
      if landed ((r.stream.putLine line).2.mapError .ofStream) then [line] else [] := by
  rw [landed_mapError]
  exact r.stream.lines_putLine line

theorem lines_progress_new (h : r.lastProgress ≠ some (subject, stage)) :
    (r.progress subject stage).reporter.stream.lines =
      r.stream.lines ++ if landed (r.progress subject stage).result
        then [(Message.progress subject stage).line] else [] := by
  obtain ⟨hr, hres⟩ := progress_new h
  rw [hr, hres]
  exact r.lines_putLine _

theorem lines_diagnostic_new (hf : d.fingerprint? = some key)
    (hpairs : attributes? r.settings d = some pairs) (h : r.seen.contains key = false) :
    (r.diagnostic d).reporter.stream.lines =
      r.stream.lines ++ if landed (r.diagnostic d).result
        then [(Message.inspection pairs).line] else [] := by
  obtain ⟨hr, hres⟩ := diagnostic_new hf hpairs h
  rw [hr, hres]
  exact r.lines_putLine _

/-- A call other than an announcement has one message at most. It adds what is due unless it fails
before the message is written. -/
theorem lines_perform_of_ne_announce {c : Call} (hc : ∀ ps, c ≠ .announce ps) :
    (r.perform c).reporter.stream.lines =
      r.stream.lines ++ if landed (r.perform c).result
        then (r.due c).map Message.line else [] := by
  cases hr : r.repeats c with
  | true => simp [due_of_repeats hr, (perform_of_repeats hr).2]
  | false =>
    rw [due_of_not_repeats hr]
    cases c with
    | plain text =>
      simp only [perform, Reply.map, landed_map]
      exact r.lines_putLine _
    | progress subject stage value =>
      simp only [perform, Reply.map, landed_map]
      exact lines_progress_new (of_decide_eq_false hr)
    | diagnostic d =>
      rcases printable_or_not r.settings d with hp | ⟨key, pairs, hf, hpairs, hmessages⟩
      · rw [(perform_unprintable (c := .diagnostic d) hp).1,
          (perform_unprintable (c := .diagnostic d) hp).2]
        simp [landed]
      · simp only [perform, Reply.map, landed_map, hmessages]
        exact lines_diagnostic_new hf hpairs (repeats_diagnostic hf ▸ hr)
    | announce ps => exact absurd rfl (hc ps)

/-- **A call adds whole messages**, the first ones of those that are due, and all of them when
it gives a result. -/
theorem lines_perform (r : Reporter) (c : Call) :
    ∃ n ≤ (r.due c).length,
      (r.perform c).reporter.stream.lines =
        r.stream.lines ++ ((r.due c).take n).map Message.line ∧
      ∀ v, (r.perform c).result = .ok v → n = (r.due c).length := by
  by_cases hc : ∀ ps, c ≠ .announce ps
  · have hlines := lines_perform_of_ne_announce (r := r) hc
    by_cases hl : landed (r.perform c).result = true
    · exact ⟨_, Nat.le_refl _, by simpa [hl] using hlines, fun _ _ => rfl⟩
    · refine ⟨0, Nat.zero_le _, by simpa [hl] using hlines, fun v hv => ?_⟩
      rw [hv] at hl
      exact absurd rfl hl
  · simp only [ne_eq, not_forall, not_not] at hc
    obtain ⟨ps, rfl⟩ := hc
    have ht := announce_told r ps
    refine ⟨_, ht.reached_le, ht.lines_eq, fun v hv => ht.running ?_⟩
    cases hstop : ((Announcement.start r.stream r.settings.verbose).askAll ps).stop with
    | none => rfl
    | some fault =>
      simp [perform, Reply.map, announce, hstop, Except.map] at hv

theorem ne_announce_of_isNoted {c : Call} (hc : c.isNoted = true) (ps : List Provider) :
    c ≠ .announce ps := by
  rintro rfl
  cases hc

/-! ## Where nothing fails -/

theorem reliable_progress (h : r.stream.Reliable) (subject stage : String) :
    (r.progress subject stage).result = .ok () ∧
      (r.progress subject stage).reporter.stream.Reliable := by
  by_cases hp : r.lastProgress = some (subject, stage)
  · obtain ⟨hr, hres⟩ := progress_repeated hp
    rw [hr, hres]
    exact ⟨rfl, h⟩
  · obtain ⟨hr, hres⟩ := progress_new hp
    rw [hr, hres, mapError_eq_ok_iff]
    exact h.putLine _

theorem reliable_diagnostic (h : r.stream.Reliable) (d : Diagnostic) :
    (d.isPrintable = true → (r.diagnostic d).result = .ok ()) ∧
      (r.diagnostic d).reporter.stream.Reliable := by
  cases r.findingCase d with
  | unprintable hp hd =>
    rw [hd]
    exact ⟨fun hp' => absurd (hp.symm.trans hp') Bool.false_ne_true, h⟩
  | known _ _ hr hres =>
    rw [hr, hres]
    exact ⟨fun _ => rfl, h⟩
  | new _ _ _ _ hr hres =>
    rw [hr, hres, mapError_eq_ok_iff]
    exact ⟨fun _ => (h.putLine _).1, (h.putLine _).2⟩

theorem reliable_announce (h : r.stream.Reliable) (ps : List Provider) :
    (∃ n, (r.announce ps).result = .ok n) ∧ (r.announce ps).reporter.stream.Reliable := by
  have hs : Announcement.Sound
      ((Announcement.start r.stream r.settings.verbose).askAll ps) :=
    Announcement.Sound.askAll ps ⟨rfl, h⟩
  refine ⟨?_, hs.2⟩
  simp only [announce, hs.1]
  exact ⟨_, rfl⟩

theorem ok_map {α β : Type} {x : Except Fault α} {a : α} (f : α → β) (h : x = .ok a) :
    ∃ v, x.map f = .ok v :=
  ⟨f a, by rw [h]; rfl⟩

/-- Where nothing will fail any more, a call gives a result if its finding can be printed, and
still nothing will fail. -/
theorem reliable_perform (h : r.stream.Reliable) (c : Call) :
    (c.isPrintable = true → ∃ v, (r.perform c).result = .ok v) ∧
      (r.perform c).reporter.stream.Reliable := by
  cases c with
  | plain text =>
    obtain ⟨hok, hr⟩ := h.putLine (Message.plain text).line
    exact ⟨fun _ => ok_map _ (mapError_eq_ok_iff.2 hok), hr⟩
  | progress subject stage value =>
    obtain ⟨hok, hr⟩ := reliable_progress h subject stage
    exact ⟨fun _ => ok_map _ hok, hr⟩
  | diagnostic d =>
    obtain ⟨hok, hr⟩ := reliable_diagnostic h d
    exact ⟨fun hp => ok_map _ (hok hp), hr⟩
  | announce ps =>
    obtain ⟨⟨n, hok⟩, hr⟩ := reliable_announce h ps
    exact ⟨fun _ => ok_map _ hok, hr⟩

/-! ## What a reporter notes -/

theorem settings_perform (r : Reporter) (c : Call) :
    (r.perform c).reporter.settings = r.settings := by
  cases c with
  | plain text => rfl
  | progress subject stage value =>
    show (r.progress subject stage).reporter.settings = r.settings
    by_cases h : r.lastProgress = some (subject, stage)
    · rw [(progress_repeated h).1]
    · rw [(progress_new h).1]
  | diagnostic d =>
    show (r.diagnostic d).reporter.settings = r.settings
    cases r.findingCase d with
    | unprintable _ hd => rw [hd]
    | known _ _ hr _ => rw [hr]
    | new _ _ _ _ hr _ => rw [hr]
  | announce ps => rfl

theorem lastProgress_perform (r : Reporter) (c : Call) :
    (r.perform c).reporter.lastProgress = c.step?.or r.lastProgress := by
  cases c with
  | plain text => rfl
  | progress subject stage value =>
    show (r.progress subject stage).reporter.lastProgress = some (subject, stage)
    by_cases h : r.lastProgress = some (subject, stage)
    · rw [(progress_repeated h).1, h]
    · rw [(progress_new h).1]
  | diagnostic d =>
    show (r.diagnostic d).reporter.lastProgress = r.lastProgress
    cases r.findingCase d with
    | unprintable _ hd => rw [hd]
    | known _ _ hr _ => rw [hr]
    | new _ _ _ _ hr _ => rw [hr]
  | announce ps => rfl

theorem seen_progress (r : Reporter) (subject stage : String) :
    (r.progress subject stage).reporter.seen = r.seen := by
  by_cases h : r.lastProgress = some (subject, stage)
  · rw [(progress_repeated h).1]
  · rw [(progress_new h).1]

/-- A finding is known when its message was due, whether or not it could be written. -/
theorem contains_diagnostic (r : Reporter) (d : Diagnostic) (key : String) :
    (r.diagnostic d).reporter.seen.contains key = true ↔
      r.seen.contains key = true ∨ d.fingerprint? = some key := by
  cases r.findingCase d with
  | unprintable hp hd => simp [hd, fingerprint?_eq_none hp]
  | known hf hk hr _ =>
    rw [hf, hr, Option.some.injEq]
    refine ⟨.inl, fun h => h.elim id ?_⟩
    rintro rfl
    exact hk
  | new hf _ _ _ hr _ =>
    rw [hf, hr, Option.some.injEq, Std.HashSet.contains_insert]
    simp [or_comm]

/-- A call makes known the fingerprint of the finding that it is about, and no other. -/
theorem contains_perform (r : Reporter) (c : Call) (key : String) :
    (r.perform c).reporter.seen.contains key = true ↔
      r.seen.contains key = true ∨ ∃ d, c.finding? = some d ∧ d.fingerprint? = some key := by
  cases c with
  | plain text => simp [perform, Reply.map, plain, write, Call.finding?]
  | progress subject stage value =>
    simp [perform, Reply.map, seen_progress, Call.finding?]
  | diagnostic d =>
    simp only [perform, Reply.map, contains_diagnostic, Call.finding?, Option.some.injEq,
      exists_eq_left']
  | announce ps => simp [perform, Reply.map, announce, Call.finding?]

end Reporter

end InspectionFeed
