/-
A conversion as a fold over the lines of its input. On a stream on which
nothing fails it goes with the reading of the lines step by step (`Follows`):
the reporter has been called for each record that was read and for nothing
else, and the conversion stops where the reading stops. So a conversion that
stops has done what it does with the lines before, and it does not matter how
lines are dealt out in batches.
-/
import InspectionFeed.Proofs.Record.Printable
import InspectionFeed.Proofs.Reporter.Accounts
import InspectionFeed.Reporter.Conversion

namespace InspectionFeed

namespace Record

/-- The call that reports a record. -/
def call : Record → Call
  | .message text => .plain text
  | .progress subject stage value => .progress subject stage value
  | .diagnostic d => .diagnostic d

/-- What a line holds can be reported. -/
theorem isPrintable_call {line : String} {record : Record} (h : ofLine? line = some record) :
    record.call.isPrintable = true := by
  cases record with
  | diagnostic d => exact isPrintable_of_ofLine? h
  | _ => rfl

theorem isPrintable_call_of_mem_accepted {lines : List String} {record : Record}
    (h : record ∈ accepted lines) : record.call.isPrintable = true := by
  obtain ⟨line, -, hline⟩ := List.mem_filterMap.1 h
  exact isPrintable_call hline

/-- A record of a plain message. -/
def isMessage : Record → Bool
  | .message _ => true
  | _ => false

/-- A record of a step of progress. -/
def isProgress : Record → Bool
  | .progress _ _ _ => true
  | _ => false

end Record

/-- The reporter after batches of lines. Each batch is converted by itself, with lines counted from
the batch's first one, and a batch that stops is the last one. -/
def Reporter.convertBatches (r : Reporter) : List (List String) → Reporter
  | [] => r
  | lines :: batches =>
    let c := (Conversion.start r).pushAll lines
    if c.stop.isSome then c.reporter else c.reporter.convertBatches batches

namespace Reporter

variable {r : Reporter}

theorem perform_call (r : Reporter) (record : Record) :
    r.perform record.call = (r.dispatch record).map fun _ => none := by
  cases record <;> rfl

theorem reporter_dispatch (r : Reporter) (record : Record) :
    (r.dispatch record).reporter = (r.perform record.call).reporter := by
  rw [perform_call]; rfl

theorem reliable_dispatch (h : r.stream.Reliable) {record : Record}
    (hp : record.call.isPrintable = true) : (r.dispatch record).result = .ok () := by
  obtain ⟨v, hv⟩ := (reliable_perform h record.call).1 hp
  rw [perform_call] at hv
  cases hd : (r.dispatch record).result with
  | ok u => rfl
  | error fault => simp [Reply.map, hd, Except.map] at hv

/-- Where nothing fails, a finding that can be printed is counted once. -/
theorem counts_diagnostic (h : r.stream.Reliable) {d : Diagnostic} (hp : d.isPrintable = true) :
    ((r.diagnostic d).reporter.emitted = r.emitted + 1 ∧
        (r.diagnostic d).reporter.suppressed = r.suppressed) ∨
      ((r.diagnostic d).reporter.emitted = r.emitted ∧
        (r.diagnostic d).reporter.suppressed = r.suppressed + 1) := by
  cases r.findingCase d with
  | unprintable hp' _ =>
    rw [hp] at hp'
    cases hp'
  | known _ _ hr _ =>
    rw [hr]
    exact .inr ⟨rfl, rfl⟩
  | new _ _ _ _ hr _ =>
    rw [hr, (h.putLine _).1, if_pos rfl]
    exact .inl ⟨rfl, rfl⟩

end Reporter

namespace Conversion

variable {r : Reporter} {c : Conversion} {reading : Reading}

/-! ## Converting and reading -/

/-- The conversion has got as far as the reading, with `r` as its reporter at the start. -/
structure Follows (r : Reporter) (c : Conversion) (reading : Reading) : Prop where
  reporter_eq : c.reporter = r.performAll (reading.records.map Record.call)
  next_eq : c.next = reading.next
  count_eq : c.count = reading.read.length
  stop_eq : c.stop = reading.stop.map .inl

theorem follows_start (r : Reporter) : Follows r (start r) .start := ⟨rfl, rfl, rfl, rfl⟩

theorem Follows.push (h : Follows r c reading) (hr : r.stream.Reliable) (line : String) :
    Follows r (c.push line) (reading.push line) := by
  obtain ⟨reporter, next, count, logged, stop⟩ := c
  obtain ⟨next', read, logged', stop'⟩ := reading
  obtain ⟨hreporter, hnext, hcount, hstop⟩ := h
  dsimp only at hreporter hnext hcount hstop
  subst hnext hcount hstop
  cases stop' with
  | some fault => exact ⟨hreporter, rfl, rfl, rfl⟩
  | none =>
    simp only [Option.map_none, Conversion.push, Reading.push]
    by_cases hb : Text.isBlankText line = true
    · rw [if_pos hb, if_pos hb]
      exact ⟨hreporter, rfl, rfl, rfl⟩
    · rw [if_neg hb, if_neg hb]
      rcases hline : Record.ofLine next line with ⟨events, fault | record⟩
      · exact ⟨hreporter, rfl, rfl, rfl⟩
      · -- The stream has not failed so far, and what the line holds can be reported.
        have hp : record.call.isPrintable = true :=
          Record.isPrintable_call (Record.result_ofLine_eq_ok.1 (congrArg Logged.result hline))
        have hok : (reporter.dispatch record).result = .ok () :=
          reporter.reliable_dispatch (hreporter ▸ Reporter.reliable_performAll hr _) hp
        have hcalled : (reporter.dispatch record).reporter =
            r.performAll ((record :: read).reverse.map Record.call) := by
          rw [List.reverse_cons, List.map_append, List.map_singleton, Reporter.performAll_append,
            Reporter.reporter_dispatch, hreporter]
          rfl
        dsimp only
        rcases hd : reporter.dispatch record with ⟨reporter', more, fault | _⟩
        · rw [hd] at hok
          cases hok
        · rw [hd] at hcalled
          exact ⟨hcalled, rfl, rfl, rfl⟩

theorem Follows.pushAll (h : Follows r c reading) (hr : r.stream.Reliable) (lines : List String) :
    Follows r (c.pushAll lines) (lines.foldl Reading.push reading) := by
  induction lines generalizing c reading with
  | nil => exact h
  | cons line lines ih => exact ih (h.push hr line)

/-- **A conversion goes with the reading of its lines** where nothing fails. -/
theorem follows_ofLines (hr : r.stream.Reliable) (lines : List String) :
    Follows r ((start r).pushAll lines) (.ofLines lines) :=
  (follows_start r).pushAll hr lines

/-! ## What a conversion leaves -/

/-- The reporter has been called for each accepted record and for nothing else. -/
theorem reporter_pushAll (hr : r.stream.Reliable) (lines : List String) :
    ((start r).pushAll lines).reporter =
      r.performAll ((Record.accepted lines).map Record.call) := by
  rw [(follows_ofLines hr lines).reporter_eq, (Reading.ofLines_eq lines).1]

theorem stop_pushAll_eq_none_iff (hr : r.stream.Reliable) {lines : List String} :
    ((start r).pushAll lines).stop = none ↔ ∀ l ∈ lines, Record.isRejected l = false := by
  rw [(follows_ofLines hr lines).stop_eq, Option.map_eq_none_iff, Reading.stop_eq_none_iff]

/-- A conversion that stops has done what it does with the lines before. -/
theorem exists_of_stop_pushAll (hr : r.stream.Reliable) {lines : List String}
    {stop : ReadFault ⊕ Reporter.Fault} (h : ((start r).pushAll lines).stop = some stop) :
    ∃ before line after fault, lines = before ++ line :: after ∧
      (∀ l ∈ before, Record.isRejected l = false) ∧ Record.isRejected line = true ∧
      stop = .inl fault ∧ Record.fault? (before.length + 1) line = some fault ∧
      ((start r).pushAll lines).next = before.length + 1 ∧
      ((start r).pushAll before).stop = none ∧
      ((start r).pushAll lines).reporter = ((start r).pushAll before).reporter := by
  have hfollows := follows_ofLines hr lines
  rw [hfollows.stop_eq] at h
  obtain ⟨fault, hread, rfl⟩ := Option.map_eq_some_iff.1 h
  obtain ⟨before, line, after, rfl, hbefore, hline, hnext, hf⟩ :=
    Reading.exists_of_stop_eq_some hread
  refine ⟨before, line, after, fault, rfl, hbefore, hline, rfl, hf, ?_,
    (stop_pushAll_eq_none_iff hr).2 hbefore, ?_⟩
  · rw [hfollows.next_eq, hnext]
  · rw [reporter_pushAll hr, reporter_pushAll hr, Record.accepted_append hbefore,
      Record.accepted_cons_rejected hline, List.append_nil]

/-- How lines are dealt out does not matter: the batch that stops holds the first rejected line of
all batches. -/
theorem convertBatches_eq (hr : r.stream.Reliable) (batches : List (List String)) :
    r.convertBatches batches = ((start r).pushAll batches.flatten).reporter := by
  -- The reporter that one batch leaves is the one that the next batch starts with.
  induction batches generalizing r with
  | nil => rfl
  | cons lines batches ih =>
    rw [List.flatten_cons]
    unfold Reporter.convertBatches
    dsimp only
    cases hstop : ((start r).pushAll lines).stop with
    | none =>
      have hall := (stop_pushAll_eq_none_iff hr).1 hstop
      have hr' : ((start r).pushAll lines).reporter.stream.Reliable := by
        rw [reporter_pushAll hr]
        exact Reporter.reliable_performAll hr _
      rw [Option.isSome_none, if_neg Bool.false_ne_true, ih hr', reporter_pushAll hr',
        reporter_pushAll hr, reporter_pushAll hr, Record.accepted_append hall, List.map_append]
      exact List.foldl_append.symm
    | some stop =>
      -- This batch holds the first rejected line, so what the other batches hold does not count.
      obtain ⟨before, line, after, -, rfl, -, hline, -⟩ := exists_of_stop_pushAll hr hstop
      have hmem : line ∈ before ++ line :: after := by simp
      rw [Option.isSome_some, if_pos rfl, reporter_pushAll hr, reporter_pushAll hr,
        Record.accepted_append_of_mem hline hmem]

/-! ## Numbers -/

/-- Each record shows in the numbers: as a plain message, as a step of progress, or in one of the
counts of findings. -/
theorem length_eq_counts (hr : r.stream.Reliable) {records : List Record}
    (hp : ∀ record ∈ records, record.call.isPrintable = true) :
    ∃ emitted suppressed,
      (r.performAll (records.map Record.call)).emitted = r.emitted + emitted ∧
      (r.performAll (records.map Record.call)).suppressed = r.suppressed + suppressed ∧
      records.length =
        records.countP Record.isMessage + records.countP Record.isProgress + emitted +
          suppressed := by
  induction records using List.reverseRecOn with
  | nil => exact ⟨0, 0, rfl, rfl, rfl⟩
  | append_singleton records record ih =>
    obtain ⟨emitted, suppressed, he, hs, hlength⟩ :=
      ih fun record' h => hp record' (List.mem_append_left _ h)
    have hr' := Reporter.reliable_performAll hr (records.map Record.call)
    have hlast : record.call.isPrintable = true := hp record (by simp)
    simp only [List.map_append, List.map_singleton, Reporter.performAll_append,
      List.length_append, List.length_singleton, List.countP_append, List.countP_singleton]
    cases record with
    | message text =>
      refine ⟨emitted, suppressed, he, hs, ?_⟩
      simp only [Record.isMessage, Record.isProgress, if_true, Bool.false_eq_true, if_false]
      omega
    | progress subject stage value =>
      obtain ⟨he', hs', -⟩ := Reporter.counts_perform
        (r := r.performAll (records.map Record.call)) (c := .progress subject stage value) rfl
      refine ⟨emitted, suppressed, he'.trans he, hs'.trans hs, ?_⟩
      simp only [Record.isMessage, Record.isProgress, if_true, Bool.false_eq_true, if_false]
      omega
    | diagnostic d =>
      rcases Reporter.counts_diagnostic hr' (d := d) hlast with ⟨he', hs'⟩ | ⟨he', hs'⟩
      · refine ⟨emitted + 1, suppressed, he'.trans (by rw [he]; omega), hs'.trans hs, ?_⟩
        simp only [Record.isMessage, Record.isProgress, Bool.false_eq_true, if_false]
        omega
      · refine ⟨emitted, suppressed + 1, he'.trans he, hs'.trans (by rw [hs]; omega), ?_⟩
        simp only [Record.isMessage, Record.isProgress, Bool.false_eq_true, if_false]
        omega

/-! ## The fold -/

/-- **A conversion is a fold over its lines** on any reporter whose stream does not fail. It leaves
the reporter as the calls for the accepted records do, made in order. If it stops, it does so at a
line that is no record, and has done what it does with the lines before. Dealing the lines out in
batches changes nothing. If it does not stop, its count is the number of lines that are not blank,
and each of them shows in the numbers of the report. -/
theorem folds_accepted (hr : r.stream.Reliable) (lines : List String) :
    let c := (start r).pushAll lines
    c.reporter = r.performAll ((Record.accepted lines).map Record.call) ∧
      (∀ stop, c.stop = some stop → ∃ before line after fault, lines = before ++ line :: after ∧
        (∀ l ∈ before, Record.isRejected l = false) ∧ Record.isRejected line = true ∧
        stop = .inl fault ∧ Record.fault? (before.length + 1) line = some fault ∧
        c.next = before.length + 1 ∧ ((start r).pushAll before).stop = none ∧
        c.reporter = ((start r).pushAll before).reporter) ∧
      (∀ batches : List (List String), batches.flatten = lines →
        r.convertBatches batches = c.reporter) ∧
      (c.stop = none → c.count = lines.countP (!Text.isBlankText ·) ∧
        ∃ emitted suppressed,
          c.reporter.emitted = r.emitted + emitted ∧
          c.reporter.suppressed = r.suppressed + suppressed ∧
          c.count = (Record.accepted lines).countP Record.isMessage +
            (Record.accepted lines).countP Record.isProgress + emitted + suppressed) := by
  intro c
  have hreporter : c.reporter = r.performAll ((Record.accepted lines).map Record.call) :=
    reporter_pushAll hr lines
  refine ⟨hreporter, fun stop hstop => exists_of_stop_pushAll hr hstop, ?_, fun hstop => ?_⟩
  · rintro batches rfl
    exact convertBatches_eq hr batches
  · have hcount : c.count = (Record.accepted lines).length := by
      rw [(follows_ofLines hr lines).count_eq, ← (Reading.ofLines_eq lines).1, Reading.records,
        List.length_reverse]
    have hall := (stop_pushAll_eq_none_iff hr).1 hstop
    refine ⟨hcount.trans (Record.length_accepted hall), ?_⟩
    rw [hreporter, hcount]
    exact length_eq_counts hr fun _ => Record.isPrintable_call_of_mem_accepted

/-- A step of progress that the reporter knows already, a message and a line that is no record,
after a blank line and in two batches. -/
theorem mixed_lines_fold :
    let r := (Reporter.new .default .empty).performAll [.progress "a.c" "parsing" 0]
    let progress :=
      "\x7b\"kind\": \"progress\", \"subject\": \"a.c\", \"stage\": \"parsing\", \"value\": 7\x7d"
    let message := "\x7b\"kind\": \"message\", \"text\": \"done\"\x7d"
    let c := (start r).pushAll ["", progress, message, "[]", message]
    r.stream.Reliable ∧
      c.reporter = r.performAll [.progress "a.c" "parsing" 7, .plain "done"] ∧
      r.convertBatches [["", progress], [message, "[]"], [message]] = c.reporter := by
  intro r progress message c
  have hr : r.stream.Reliable := Reporter.reliable_performAll Stream.reliable_empty _
  obtain ⟨hfold, -, hbatches, -⟩ := folds_accepted hr ["", progress, message, "[]", message]
  have haccepted : Record.accepted ["", progress, message, "[]", message] =
      [.progress "a.c" "parsing" 7, .message "done"] := by decide +kernel
  rw [haccepted] at hfold
  exact ⟨hr, hfold, hbatches _ rfl⟩

end Conversion

end InspectionFeed
