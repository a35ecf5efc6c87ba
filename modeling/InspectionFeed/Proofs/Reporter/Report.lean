/-
The report of a run on a stream that never fails. Its messages follow from the
history of calls alone (`Call.report`), and the text of the stream, split into
lines and each line read back, is those messages (`decode_report`).

So nothing that a text holds adds, drops or changes a message, a finding is
left out only when it was reported before or has a number that is too long to be
printed, and a step of progress only when it is that of the last call about
progress, whatever came between the two.
-/
import InspectionFeed.Proofs.Message.Line
import InspectionFeed.Proofs.Reporter.Run

namespace InspectionFeed

/-- The messages of calls after earlier ones: those of each call, unless it says again what was
said before. -/
def Call.report (s : Settings) (earlier : List Call) : List Call → List Message
  | [] => []
  | c :: cs => (if c.repeats earlier then [] else c.messages s) ++ report s (earlier ++ [c]) cs

theorem Call.report_append (s : Settings) (c : Call) : ∀ (earlier cs : List Call),
    report s earlier (cs ++ [c]) =
      report s earlier cs ++ if c.repeats (earlier ++ cs) then [] else c.messages s
  | earlier, [] => by simp [report]
  | earlier, c' :: cs => by
    simp only [List.cons_append, report, report_append s c (earlier ++ [c']) cs,
      List.append_assoc, List.nil_append]

namespace Reporter

/-! ## Names of messages -/

/-- The names of the messages of a report. -/
def messageNames : List String := ["message", "progressMessage", "inspection", "inspectionType"]

/-- The keys of all their attributes. -/
def attributeKeys : List String :=
  ["text", "typeId", "message", "file", "line", "column", "cwe", "inconclusive", "SEVERITY", "id",
    "name", "description", "category"]

theorem isWord_of_mem_messageNames : ∀ n ∈ messageNames, Message.isWord n = true := by decide

theorem isWord_of_mem_attributeKeys : ∀ k ∈ attributeKeys, Message.isWord k = true := by decide

theorem key_mem_of_mem_attributes {s : Settings} {d : Diagnostic}
    {pairs : List (String × String)} (hpairs : attributes? s d = some pairs)
    {p : String × String} (h : p ∈ pairs) : p.1 ∈ attributeKeys := by
  have key_of {k v : String} (hk : k ∈ attributeKeys) (hp : p = (k, v)) : p.1 ∈ attributeKeys := by
    rwa [hp]
  simp only [attributes?, Option.bind_eq_bind, Option.bind_eq_some_iff, Option.pure_def,
    Option.some.injEq] at hpairs
  obtain ⟨place, hplace, weakness, hweakness, rfl⟩ := hpairs
  simp only [List.mem_append, List.mem_cons, List.not_mem_nil, or_false] at h
  rcases h with ((((h | h) | h) | h) | h) | h
  · rcases h with h | h <;> exact key_of (by decide) h
  · unfold placePairs? at hplace
    split at hplace
    · simp only [Option.bind_eq_bind, Option.bind_eq_some_iff, Option.pure_def,
        Option.some.injEq] at hplace
      obtain ⟨line, -, column, -, rfl⟩ := hplace
      simp only [List.mem_cons, List.not_mem_nil, or_false] at h
      rcases h with h | h <;> exact key_of (by decide) h
    · cases hplace
      cases h
  · exact key_of (by decide) h
  · unfold classPairs? at hweakness
    split at hweakness
    · obtain ⟨n, -, rfl⟩ := Option.map_eq_some_iff.1 hweakness
      exact key_of (by decide) (List.mem_singleton.1 h)
    · cases hweakness
      cases h
  · split at h
    · exact key_of (by decide) (List.mem_singleton.1 h)
    · cases h
  · split at h
    · exact key_of (by decide) (List.mem_singleton.1 h)
    · cases h

/-- The message about a finding is one with its attributes. -/
theorem exists_attributes_of_mem_messages {s : Settings} {d : Diagnostic} {m : Message}
    (h : m ∈ (Call.diagnostic d).messages s) :
    ∃ pairs, attributes? s d = some pairs ∧ m = .inspection pairs := by
  rcases printable_or_not s d with hp | ⟨key, pairs, -, hpairs, hmessages⟩
  · rw [Call.messages, hp] at h
    cases h
  · rw [hmessages] at h
    exact ⟨pairs, hpairs, List.mem_singleton.1 h⟩

theorem exists_description_of_mem_messages {detailed : Bool} {ps : List Provider} {m : Message}
    (h : m ∈ ps.flatMap (Provider.messages detailed)) :
    ∃ e : Description, m = e.announce detailed := by
  simp only [Provider.messages, List.mem_flatMap] at h
  obtain ⟨p, -, x, -, hx⟩ := h
  cases x with
  | text text => cases hx
  | description e => exact ⟨e, List.mem_singleton.1 hx⟩

theorem name_mem_of_mem_messages {s : Settings} {c : Call} {m : Message} (h : m ∈ c.messages s) :
    m.name ∈ messageNames := by
  cases c with
  | plain text => obtain rfl := List.mem_singleton.1 h; simp [Message.plain, messageNames]
  | progress subject stage value =>
    obtain rfl := List.mem_singleton.1 h; simp [Message.progress, messageNames]
  | diagnostic d =>
    obtain ⟨pairs, -, rfl⟩ := exists_attributes_of_mem_messages h
    simp [Message.inspection, messageNames]
  | announce ps =>
    obtain ⟨e, rfl⟩ := exists_description_of_mem_messages h
    simp [Description.announce, Message.inspectionType, messageNames]

theorem key_mem_of_mem_messages {s : Settings} {c : Call} {m : Message} (h : m ∈ c.messages s)
    {p : String × String} (hp : p ∈ m.payload.pairs) : p.1 ∈ attributeKeys := by
  cases c with
  | plain text =>
    obtain rfl := List.mem_singleton.1 h
    obtain rfl : p = ("text", text) := List.mem_singleton.1 hp
    simp [attributeKeys]
  | progress subject stage value => obtain rfl := List.mem_singleton.1 h; cases hp
  | diagnostic d =>
    obtain ⟨pairs, hpairs, rfl⟩ := exists_attributes_of_mem_messages h
    exact key_mem_of_mem_attributes hpairs hp
  | announce ps =>
    obtain ⟨e, rfl⟩ := exists_description_of_mem_messages h
    simp only [Description.announce, Message.inspectionType, Payload.pairs, List.mem_cons,
      List.not_mem_nil, or_false] at hp
    rcases hp with rfl | rfl | rfl | rfl <;> simp [attributeKeys]

theorem wellNamed_of_mem_messages {s : Settings} {c : Call} {m : Message}
    (h : m ∈ c.messages s) : m.WellNamed where
  name := isWord_of_mem_messageNames _ (name_mem_of_mem_messages h)
  keys _ hp := isWord_of_mem_attributeKeys _ (key_mem_of_mem_messages h hp)

/-! ## Runs on a stream that never fails -/

variable {r : Reporter}

theorem reliable_performAll (h : r.stream.Reliable) (cs : List Call) :
    (r.performAll cs).stream.Reliable := by
  induction cs using List.reverseRecOn with
  | nil => exact h
  | append_singleton cs c ih => rw [performAll_append]; exact (reliable_perform ih c).2

/-- Each step of a run makes one of its calls, on a stream that does not fail. -/
theorem of_mem_steps (h : r.stream.Reliable) : ∀ {cs : List Call} {t : Step},
    t ∈ r.steps cs → t.call ∈ cs ∧ t.before.stream.Reliable := by
  intro cs
  induction cs using List.reverseRecOn with
  | nil => intro t ht; cases ht
  | append_singleton cs c ih =>
    intro t ht
    rw [steps_append, List.mem_append, List.mem_singleton] at ht
    rcases ht with ht | rfl
    · exact ⟨List.mem_append_left _ (ih ht).1, (ih ht).2⟩
    · exact ⟨by simp, reliable_performAll h cs⟩

theorem result_of_mem_steps (h : r.stream.Reliable) {cs : List Call} {t : Step}
    (ht : t ∈ r.steps cs) (hp : t.call.isPrintable = true) : ∃ v, t.reply.result = .ok v :=
  (reliable_perform (of_mem_steps h ht).2 t.call).1 hp

/-- On a stream that does not fail a call does so just when its finding cannot be printed. -/
theorem result_iff_of_mem_steps (h : r.stream.Reliable) {cs : List Call} {t : Step}
    (ht : t ∈ r.steps cs) : (∃ v, t.reply.result = .ok v) ↔ t.call.isPrintable = true := by
  refine ⟨fun ⟨v, hv⟩ => ?_, result_of_mem_steps h ht⟩
  cases hp : t.call.isPrintable with
  | true => rfl
  | false =>
    have hres : t.reply.result = .error .unprintable := (perform_unprintable hp).1
    rw [hres] at hv
    cases hv

/-- What is due of a call is written where nothing fails. A call without a result has nothing
due. -/
theorem lines_perform_of_reliable (h : r.stream.Reliable) (c : Call) :
    (r.perform c).reporter.stream.lines = r.stream.lines ++ (r.due c).map Message.line := by
  obtain ⟨n, -, hlines, hall⟩ := lines_perform r c
  cases hp : c.isPrintable with
  | true =>
    obtain ⟨v, hv⟩ := (reliable_perform h c).1 hp
    rw [hlines, hall v hv, List.take_length]
  | false =>
    have hdue : r.due c = [] := by
      cases c with
      | diagnostic d =>
        rw [due_of_not_repeats (repeats_unprintable hp), Call.messages,
          if_neg (Bool.not_eq_true _ ▸ hp)]
      | _ => cases hp
    rw [(perform_unprintable hp).2, hdue, List.map_nil, List.append_nil]

/-- The lines of a run are those of the report of its calls. -/
theorem lines_run (settings : Settings) {stream : Stream} (h : stream.Reliable)
    (calls : List Call) :
    ((new settings stream).performAll calls).stream.lines =
      stream.lines ++ (Call.report settings [] calls).map Message.line := by
  induction calls using List.reverseRecOn with
  | nil => simp [performAll, new, Call.report]
  | append_singleton cs c ih =>
    have hrel : ((new settings stream).performAll cs).stream.Reliable :=
      reliable_performAll h cs
    rw [performAll_append, lines_perform_of_reliable hrel, ih, Call.report_append, due,
      (noted_run settings stream cs).repeats_eq, settings_performAll]
    simp [new]

theorem wellNamed_of_mem_report {s : Settings} {m : Message} : ∀ {earlier cs : List Call},
    m ∈ Call.report s earlier cs → m.WellNamed
  | _, [], h => by cases h
  | earlier, c :: cs, h => by
    rw [Call.report, List.mem_append] at h
    rcases h with h | h
    · split at h
      · cases h
      · exact wellNamed_of_mem_messages h
    · exact wellNamed_of_mem_report h

/-- **The report of a run, read back.** On a stream that never fails the text of the stream, split
into lines and each line read as a message, is the report of the calls in their order: the message
of each plain text, that of each step of progress unless the last call about progress before it was
about the same subject and stage, that of each finding unless it is equal to one before, with just
its attributes, and one for each kind that providers describe. Every call gives a result, but for
those about findings that cannot be printed: they fail, change nothing and have no message. -/
theorem decode_report (settings : Settings) (calls : List Call) :
    let ts := (new settings .empty).steps calls
    Message.decodeAll? ((new settings .empty).performAll calls).stream.text =
        some ((Call.report settings [] calls).map Message.sorted) ∧
      (∀ t ∈ ts, ((∃ v, t.reply.result = .ok v) ↔ t.call.isPrintable = true) ∧
        (t.call.isPrintable = false → t.reply.result = .error .unprintable ∧ t.after = t.before)) ∧
      ((∀ t ∈ ts, ∃ v, t.reply.result = .ok v) ↔ ∀ c ∈ calls, c.isPrintable = true) := by
  intro ts
  have hempty : (new settings .empty).stream.Reliable := Stream.reliable_empty
  refine ⟨?_, fun t ht => ⟨result_iff_of_mem_steps hempty ht, perform_unprintable⟩, ?_⟩
  · rw [Stream.text, lines_run settings Stream.reliable_empty,
      show Stream.empty.lines = [] from rfl, List.nil_append]
    exact Message.decodeAll?_textOf fun m hm => wellNamed_of_mem_report hm
  · rw [← map_call_steps (new settings .empty) calls]
    simp only [List.forall_mem_map]
    exact forall₂_congr fun t ht => result_iff_of_mem_steps hempty ht

/-- A finding with a number of one digit too many has no message, though it is new. -/
theorem long_number_unreported :
    let d : Diagnostic := .make "k" "s" "" .none false (10 ^ 4300) [] ""
    let r := new .default .empty
    (r.perform (.diagnostic d)).result = .error .unprintable ∧
      Message.decodeAll? (r.performAll [.diagnostic d]).stream.text = some [] := by
  intro d r
  have hp : (Call.diagnostic d).isPrintable = false := by
    rw [Call.isPrintable_diagnostic]
    exact Diagnostic.not_isPrintable_of_cwe rfl
  obtain ⟨hresult, hafter⟩ := perform_unprintable (r := r) hp
  refine ⟨hresult, ?_⟩
  rw [performAll_singleton, hafter]
  decide

end Reporter

end InspectionFeed
