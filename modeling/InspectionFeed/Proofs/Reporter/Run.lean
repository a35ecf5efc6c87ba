/-
Runs of calls, and what they leave in a reporter. A new reporter's notes after
a run tell which calls there were (`noted_run`), so a call is a repetition for
the reporter exactly when it is one in the history of the run
(`Noted.repeats_eq`). None of this depends on the stream.
-/
import InspectionFeed.Proofs.Reporter.Calls
import Mathlib.Data.List.Induction

namespace InspectionFeed

/-- A call says again what earlier calls said: for progress the last one about progress, for a
finding any one about a finding. A finding that cannot be printed was never said. -/
def Call.repeats (earlier : List Call) : Call → Bool
  | .progress subject stage _ => (earlier.filterMap Call.step?).getLast? = some (subject, stage)
  | .diagnostic d => d.isPrintable && d ∈ earlier.filterMap Call.finding?
  | _ => false

/-- One call of a run: the reporter that it met, and the call. -/
structure Step where
  before : Reporter
  call : Call

namespace Step

/-- What the call gave. -/
def reply (t : Step) : Reporter.Reply (Option Nat) := t.before.perform t.call

/-- The reporter after the call. -/
def after (t : Step) : Reporter := t.reply.reporter

/-- The lines that the call added to the stream. -/
def lines (t : Step) : List String :=
  t.after.stream.lines.drop t.before.stream.lines.length

end Step

namespace Reporter

/-- The reporter after calls in a row, each made whatever became of those before. -/
def performAll (r : Reporter) (calls : List Call) : Reporter :=
  calls.foldl (fun r c => (r.perform c).reporter) r

/-- The steps of calls in a row. -/
def steps (r : Reporter) : List Call → List Step
  | [] => []
  | c :: cs => ⟨r, c⟩ :: (r.perform c).reporter.steps cs

variable {r : Reporter} {c : Call}

/-! ## The lines of one step -/

theorem lines_step_of_ne_announce (hc : ∀ ps, c ≠ .announce ps) :
    Step.lines ⟨r, c⟩ =
      if landed (r.perform c).result then (r.due c).map Message.line else [] := by
  show List.drop r.stream.lines.length (r.perform c).reporter.stream.lines = _
  rw [lines_perform_of_ne_announce hc, List.drop_left]

theorem lines_step_of_unprintable (h : c.isPrintable = false) : Step.lines ⟨r, c⟩ = [] := by
  show List.drop r.stream.lines.length (r.perform c).reporter.stream.lines = []
  rw [(perform_unprintable h).2, List.drop_length]

theorem lines_step_of_repeats (h : r.repeats c = true) : Step.lines ⟨r, c⟩ = [] := by
  show List.drop r.stream.lines.length (r.perform c).reporter.stream.lines = []
  rw [(perform_of_repeats h).2, List.drop_length]

/-! ## Calls in a row -/

theorem performAll_singleton (r : Reporter) (c : Call) :
    r.performAll [c] = (r.perform c).reporter := rfl

theorem performAll_append (r : Reporter) (cs : List Call) (c : Call) :
    r.performAll (cs ++ [c]) = ((r.performAll cs).perform c).reporter := by
  simp only [performAll, List.foldl_append, List.foldl_cons, List.foldl_nil]

theorem steps_append : ∀ (r : Reporter) (cs : List Call) (c : Call),
    r.steps (cs ++ [c]) = r.steps cs ++ [⟨r.performAll cs, c⟩]
  | _, [], _ => rfl
  | r, c' :: cs, c => by
    simp only [List.cons_append, steps, steps_append _ cs c]
    rfl

theorem map_call_steps : ∀ (r : Reporter) (cs : List Call), (r.steps cs).map Step.call = cs
  | _, [] => rfl
  | _, c :: cs => by rw [steps, List.map_cons, map_call_steps _ cs]

theorem settings_performAll (r : Reporter) (cs : List Call) :
    (r.performAll cs).settings = r.settings := by
  induction cs using List.reverseRecOn with
  | nil => rfl
  | append_singleton cs c ih => rw [performAll_append, settings_perform, ih]

/-! ## Notes and history -/

/-- The notes of a reporter tell the calls that were made: the last one about progress, and all
about findings that can be printed. -/
structure Noted (earlier : List Call) (r : Reporter) : Prop where
  lastProgress_eq : r.lastProgress = (earlier.filterMap Call.step?).getLast?
  contains_iff : ∀ key : String, r.seen.contains key = true ↔
    ∃ d ∈ earlier.filterMap Call.finding?, d.fingerprint? = some key

theorem noted_new (settings : Settings) (stream : Stream) : Noted [] (new settings stream) :=
  ⟨rfl, fun key => by simp [new]⟩

theorem Noted.perform {earlier : List Call} (h : Noted earlier r) (c : Call) :
    Noted (earlier ++ [c]) (r.perform c).reporter where
  lastProgress_eq := by
    rw [lastProgress_perform, h.lastProgress_eq, List.filterMap_append]
    cases hc : c.step? with
    | none => simp [hc]
    | some p => simp [hc]
  contains_iff key := by
    simp only [contains_perform, h.contains_iff, List.filterMap_append, List.mem_append,
      or_and_right, exists_or]
    cases hc : c.finding? with
    | none => simp [hc]
    | some e => simp [hc]

/-- A finding is known when a call was about it: no other has its fingerprint. -/
theorem Noted.contains_fingerprint_iff {earlier : List Call} (h : Noted earlier r)
    {d : Diagnostic} {key : String} (hf : d.fingerprint? = some key) :
    r.seen.contains key = true ↔ d ∈ earlier.filterMap Call.finding? := by
  rw [h.contains_iff]
  constructor
  · rintro ⟨e, he, hkey⟩
    rwa [Diagnostic.eq_of_fingerprint? hf hkey]
  · exact fun hd => ⟨d, hd, hf⟩

/-- **After a run the notes are those of its calls**, whatever the stream did. -/
theorem noted_run (settings : Settings) (stream : Stream) (calls : List Call) :
    Noted calls ((new settings stream).performAll calls) := by
  induction calls using List.reverseRecOn with
  | nil => exact noted_new settings stream
  | append_singleton cs c ih => rw [performAll_append]; exact ih.perform c

/-- A call repeats what the reporter has noted when it repeats the history. -/
theorem Noted.repeats_eq {earlier : List Call} (h : Noted earlier r) (c : Call) :
    r.repeats c = c.repeats earlier := by
  cases c with
  | plain text => rfl
  | progress subject stage value => simp only [repeats, Call.repeats, h.lastProgress_eq]
  | diagnostic d =>
    cases hp : d.isPrintable with
    | false => rw [repeats_unprintable hp, Call.repeats, hp, Bool.false_and]
    | true =>
      obtain ⟨key, hf⟩ := exists_fingerprint? hp
      rw [Bool.eq_iff_iff, repeats_diagnostic hf, h.contains_fingerprint_iff hf, Call.repeats, hp,
        Bool.true_and, decide_eq_true_eq]
  | announce ps => rfl

end Reporter

end InspectionFeed
