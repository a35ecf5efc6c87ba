/-
Reading lines of records, told by what each line holds by itself. A line is
blank, holds a record, or is rejected, and which of these does not depend on
its number. Reading gives the records of the lines before the first rejected
one and stops there (`ofLines_eq`). Why it stopped tells the number of that
line, unless the line goes beyond what the reader of JSON takes
(`number?_of_fault?`).
-/
import InspectionFeed.Record.Reading
import Mathlib.Data.List.TakeWhile

namespace InspectionFeed

/-- The text goes beyond what the reader takes, whatever its form. -/
def Json.overruns (text : String) : Bool :=
  match read text with
  | .error (.longNumber _) => true
  | .error (.tooDeep _) => true
  | _ => false

/-- The number of the line that the reason is about, if it tells one. -/
def ReadFault.number? : ReadFault → Option Nat
  | .line n _ => some n
  | .longNumber _ => none
  | .tooDeep _ => none

namespace Record

/-- The record that a line holds. -/
def ofLine? (line : String) : Option Record :=
  match Json.read line with
  | .ok (.dict t) => (ofTable t).result.toOption
  | _ => none

/-- The line is neither blank nor a record. -/
def isRejected (line : String) : Bool := !Text.isBlankText line && (ofLine? line).isNone

/-- The lines before the first one that is rejected. -/
def untilRejected (lines : List String) : List String := lines.takeWhile (!isRejected ·)

/-- The records of the lines before the first one that is rejected. -/
def accepted (lines : List String) : List Record :=
  ((untilRejected lines).filter (!Text.isBlankText ·)).filterMap ofLine?

/-- Why a line with this number is no record. -/
def fault? (number : Nat) (line : String) : Option ReadFault :=
  match (ofLine number line).result with
  | .error fault => some fault
  | .ok _ => none

variable {line : String} {lines : List String} {record : Record} {fault : ReadFault} {n : Nat}

/-! ## One line -/

theorem mapError_eq_ok {α ε δ : Type} {f : ε → δ} {x : Except ε α} {a : α} :
    x.mapError f = .ok a ↔ x.toOption = some a := by
  cases x <;> simp [Except.mapError, Except.toOption]

/-- The number of a line does not matter for the record that it holds. -/
theorem result_ofLine_eq_ok :
    (ofLine n line).result = .ok record ↔ ofLine? line = some record := by
  unfold ofLine ofLine?
  rcases Json.read line with (_ | _ | _) | v
  case ok =>
    cases v with
    | dict t => exact mapError_eq_ok
    | _ => simp [Logged.fail]
  all_goals simp [Logged.fail]

theorem exists_fault?_of_isRejected (h : isRejected line = true) (n : Nat) :
    ∃ fault, fault? n line = some fault := by
  simp only [isRejected, Bool.and_eq_true, Option.isNone_iff_eq_none] at h
  unfold fault?
  split
  next fault _ => exact ⟨fault, rfl⟩
  next record hok => rw [result_ofLine_eq_ok, h.2] at hok; cases hok

/-- The number of a line is told unless the reader of JSON gives up on the line. -/
theorem number?_of_fault? (h : fault? n line = some fault) :
    fault.number? = if Json.overruns line then none else some n := by
  unfold fault? ofLine at h
  unfold Json.overruns
  generalize Json.read line = outcome at h ⊢
  rcases outcome with (m | digits | nesting) | v
  · cases h; rfl
  · cases h; rfl
  · cases h; rfl
  · cases v with
    | dict t =>
      simp only [Logged.mapError] at h
      cases hr : (ofTable t).result with
      | ok record => simp [hr, Except.mapError] at h
      | error f =>
        simp only [hr, Except.mapError, Option.some.injEq] at h
        rw [← h]
        rfl
    | _ => cases h; rfl

/-- A line is blank, holds a record, or is rejected. -/
theorem line_cases (line : String) :
    Text.isBlankText line = true ∨
      (Text.isBlankText line = false ∧ ∃ record, ofLine? line = some record) ∨
      isRejected line = true := by
  unfold isRejected
  cases Text.isBlankText line <;> cases ofLine? line <;> simp

theorem isRejected_of_blank (h : Text.isBlankText line = true) : isRejected line = false := by
  simp [isRejected, h]

theorem isRejected_of_record (h : ofLine? line = some record) : isRejected line = false := by
  simp [isRejected, h]

/-! ## The lines before the first rejected one -/

theorem untilRejected_cons (h : isRejected line = false) :
    untilRejected (line :: lines) = line :: untilRejected lines := by
  simp [untilRejected, h]

theorem untilRejected_cons_rejected (h : isRejected line = true) :
    untilRejected (line :: lines) = [] := by
  simp [untilRejected, h]

theorem accepted_cons_blank (h : Text.isBlankText line = true) :
    accepted (line :: lines) = accepted lines := by
  simp [accepted, untilRejected_cons (isRejected_of_blank h), h]

theorem accepted_cons_record (h : Text.isBlankText line = false)
    (hl : ofLine? line = some record) :
    accepted (line :: lines) = record :: accepted lines := by
  simp [accepted, untilRejected_cons (isRejected_of_record hl), h, hl]

theorem accepted_cons_rejected (h : isRejected line = true) : accepted (line :: lines) = [] := by
  simp [accepted, untilRejected_cons_rejected h]

theorem untilRejected_append {before : List String} (h : ∀ l ∈ before, isRejected l = false)
    (rest : List String) : untilRejected (before ++ rest) = before ++ untilRejected rest :=
  List.takeWhile_append_of_pos fun l hl => by rw [h l hl]; rfl

theorem untilRejected_eq_self (h : ∀ l ∈ lines, isRejected l = false) :
    untilRejected lines = lines := by
  simpa [untilRejected] using untilRejected_append h []

theorem accepted_append {before : List String} (h : ∀ l ∈ before, isRejected l = false)
    (rest : List String) : accepted (before ++ rest) = accepted before ++ accepted rest := by
  rw [accepted, untilRejected_append h, List.filter_append, List.filterMap_append, accepted,
    untilRejected_eq_self h]
  rfl

/-- Lines behind a rejected one do not count. -/
theorem accepted_append_of_mem (hr : isRejected line = true) : ∀ {lines : List String},
    line ∈ lines → ∀ rest, accepted (lines ++ rest) = accepted lines
  | l :: lines, hl, rest => by
    have hmem (h : isRejected l = false) : line ∈ lines :=
      (List.mem_cons.1 hl).resolve_left fun heq => by rw [heq, h] at hr; cases hr
    rw [List.cons_append]
    rcases line_cases l with hb | ⟨hb, record, hrecord⟩ | hrl
    · rw [accepted_cons_blank hb, accepted_cons_blank hb,
        accepted_append_of_mem hr (hmem (isRejected_of_blank hb))]
    · rw [accepted_cons_record hb hrecord, accepted_cons_record hb hrecord,
        accepted_append_of_mem hr (hmem (isRejected_of_record hrecord))]
    · rw [accepted_cons_rejected hrl, accepted_cons_rejected hrl]

/-- Lines with a rejected one fall apart at the first of them. -/
theorem exists_of_find?_isRejected (h : lines.find? isRejected = some line) :
    isRejected line = true ∧ ∃ after, lines = untilRejected lines ++ line :: after ∧
      ∀ l ∈ untilRejected lines, isRejected l = false := by
  obtain ⟨hr, before, after, rfl, hbefore⟩ := List.find?_eq_some_iff_append.1 h
  have hbefore' : ∀ l ∈ before, isRejected l = false := fun l hl => by simpa using hbefore l hl
  have hu : untilRejected (before ++ line :: after) = before := by
    rw [untilRejected_append hbefore', untilRejected_cons_rejected hr, List.append_nil]
  rw [hu]
  exact ⟨hr, after, rfl, hbefore'⟩

/-- Where no line is rejected, each one that is not blank has its record. -/
theorem map_some_accepted : ∀ {lines : List String}, (∀ l ∈ lines, isRejected l = false) →
    (accepted lines).map some = (lines.filter (!Text.isBlankText ·)).map ofLine?
  | [], _ => rfl
  | line :: lines, h => by
    have ih := map_some_accepted fun l hl => h l (List.mem_cons_of_mem _ hl)
    rcases line_cases line with hb | ⟨hb, record, hl⟩ | hr
    · rw [accepted_cons_blank hb, List.filter_cons_of_neg (by simp [hb]), ih]
    · rw [accepted_cons_record hb hl, List.filter_cons_of_pos (by simp [hb]), List.map_cons,
        List.map_cons, hl, ih]
    · rw [h line List.mem_cons_self] at hr
      cases hr

theorem length_accepted (h : ∀ l ∈ lines, isRejected l = false) :
    (accepted lines).length = lines.countP (!Text.isBlankText ·) := by
  rw [List.countP_eq_length_filter, ← List.length_map some, map_some_accepted h, List.length_map]

end Record

namespace Reading

open Record

variable {line : String} {record : Record} {fault : ReadFault} {next : Nat} {read : List Record}
  {logged : List Log.Event}

/-! ## All lines -/

theorem push_blank (h : Text.isBlankText line = true) :
    push ⟨next, read, logged, none⟩ line = ⟨next + 1, read, logged, none⟩ := by
  rw [push, if_pos h]

theorem push_record (hb : Text.isBlankText line = false) (h : ofLine? line = some record) :
    push ⟨next, read, logged, none⟩ line =
      ⟨next + 1, record :: read, (ofLine next line).events.reverse ++ logged, none⟩ := by
  have hok := (result_ofLine_eq_ok (n := next)).2 h
  rw [push, hb, if_neg Bool.false_ne_true]
  rcases hline : ofLine next line with ⟨events, fault | record'⟩
  · rw [hline] at hok
    cases hok
  · rw [hline] at hok
    cases hok
    rfl

theorem push_rejected (h : isRejected line = true) :
    push ⟨next, read, logged, none⟩ line =
      ⟨next, read, (ofLine next line).events.reverse ++ logged, fault? next line⟩ := by
  obtain ⟨fault, hf⟩ := exists_fault?_of_isRejected h next
  have hb : Text.isBlankText line = false := by
    simp only [isRejected, Bool.and_eq_true, Bool.not_eq_true'] at h
    exact h.1
  rw [push, hb, if_neg Bool.false_ne_true]
  unfold fault? at hf ⊢
  rcases hline : ofLine next line with ⟨events, fault' | record⟩
  · rfl
  · rw [hline] at hf
    cases hf

theorem pushAll_stopped (lines : List String) :
    lines.foldl push ⟨next, read, logged, some fault⟩ = ⟨next, read, logged, some fault⟩ := by
  induction lines with
  | nil => rfl
  | cons line lines ih => rw [List.foldl_cons, push, ih]

/-- What more lines give to a reading that has not stopped. -/
theorem pushAll_running : ∀ (lines : List String) (next : Nat) (read : List Record)
    (logged : List Log.Event),
    let r := lines.foldl push ⟨next, read, logged, none⟩
    r.records = read.reverse ++ accepted lines ∧
      r.next = next + (untilRejected lines).length ∧
      r.stop = (lines.find? isRejected).bind (fault? r.next)
  | [], next, read, logged => ⟨by simp [records, accepted, untilRejected], rfl, rfl⟩
  | line :: lines, next, read, logged => by
    rw [List.foldl_cons]
    rcases line_cases line with hb | ⟨hb, record, hl⟩ | hr
    · have hr := isRejected_of_blank hb
      obtain ⟨hrecords, hnext, hstop⟩ := pushAll_running lines (next + 1) read logged
      rw [push_blank hb]
      refine ⟨by rw [hrecords, accepted_cons_blank hb], ?_, ?_⟩
      · rw [hnext, untilRejected_cons hr, List.length_cons]; omega
      · rw [hstop, List.find?_cons_of_neg (by simp [hr])]
    · have hr := isRejected_of_record hl
      obtain ⟨hrecords, hnext, hstop⟩ := pushAll_running lines (next + 1) (record :: read)
        ((ofLine next line).events.reverse ++ logged)
      rw [push_record hb hl]
      refine ⟨?_, ?_, ?_⟩
      · rw [hrecords, accepted_cons_record hb hl, List.reverse_cons, List.append_assoc]; rfl
      · rw [hnext, untilRejected_cons hr, List.length_cons]; omega
      · rw [hstop, List.find?_cons_of_neg (by simp [hr])]
    · -- Reading has stopped, so the lines behind are not looked at.
      obtain ⟨fault, hf⟩ := exists_fault?_of_isRejected hr next
      rw [push_rejected hr, hf, pushAll_stopped, List.find?_cons_of_pos hr]
      refine ⟨?_, ?_, hf.symm⟩
      · rw [accepted_cons_rejected hr, List.append_nil]; rfl
      · rw [untilRejected_cons_rejected hr]; rfl

/-- **Reading gives the records of the lines before the first rejected one**, and stops there
with what is wrong with that line. -/
theorem ofLines_eq (lines : List String) :
    (ofLines lines).records = accepted lines ∧
      (ofLines lines).next = (untilRejected lines).length + 1 ∧
      (ofLines lines).stop =
        (lines.find? isRejected).bind (fault? ((untilRejected lines).length + 1)) := by
  obtain ⟨hrecords, hnext, hstop⟩ := pushAll_running lines 1 [] []
  rw [Nat.add_comm] at hnext
  exact ⟨hrecords, hnext, by rw [← hnext]; exact hstop⟩

theorem stop_eq_none_iff {lines : List String} :
    (ofLines lines).stop = none ↔ ∀ line ∈ lines, isRejected line = false := by
  rw [(ofLines_eq lines).2.2]
  cases h : lines.find? isRejected with
  | none => simpa using h
  | some line =>
    obtain ⟨hr, -⟩ := exists_of_find?_isRejected h
    obtain ⟨fault, hf⟩ := exists_fault?_of_isRejected hr ((untilRejected lines).length + 1)
    rw [Option.bind_some, hf]
    refine ⟨fun hnone => (by cases hnone), fun hall => ?_⟩
    rw [hall line (List.mem_of_find?_eq_some h)] at hr
    cases hr

/-- Where reading stopped: at a line that is rejected, when none before it is. -/
theorem exists_of_stop_eq_some {lines : List String} (h : (ofLines lines).stop = some fault) :
    ∃ before line after, lines = before ++ line :: after ∧
      (∀ l ∈ before, isRejected l = false) ∧ isRejected line = true ∧
      (ofLines lines).next = before.length + 1 ∧ fault? (before.length + 1) line = some fault := by
  obtain ⟨-, hnext, hstop⟩ := ofLines_eq lines
  rw [hstop] at h
  obtain ⟨line, hfind, hf⟩ := Option.bind_eq_some_iff.1 h
  obtain ⟨hr, after, hsplit, hbefore⟩ := exists_of_find?_isRejected hfind
  exact ⟨_, line, after, hsplit, hbefore, hr, hnext, hf⟩

end Reading

end InspectionFeed
