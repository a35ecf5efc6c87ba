/-
Reading lines in parts. What a line gives does not depend on its number, but
for the number in front of the complaint (`ofLine_add`). So lines that are read
behind others, which were read to their end, give what they give alone, with
every number moved on (`ofLines_append_of_running`), and behind lines at which
reading stopped they give nothing (`ofLines_append_of_stopped`).

A blank line is such a part: it gives nothing itself and moves the numbers
behind it on by one.
-/
import InspectionFeed.Proofs.Record.Reading

namespace InspectionFeed

namespace ReadFault

/-- The same reason with its line counted otherwise. -/
def renumber (g : Nat → Nat) : ReadFault → ReadFault
  | .line n f => .line (g n) f
  | .longNumber digits => .longNumber digits
  | .tooDeep nesting => .tooDeep nesting

/-- The wording of the reason without a number. -/
def reason : ReadFault → String
  | .line _ f => f.message
  | .longNumber digits => (Text.NumeralFault.tooLong digits).message
  | .tooDeep nesting => nesting.tooDeepMessage

theorem message_eq (fault : ReadFault) :
    fault.message =
      (fault.number?.elim "" fun n => "line " ++ toString n ++ ": ") ++ fault.reason := by
  cases fault with
  | line n f => rfl
  | longNumber digits => exact (String.empty_append).symm
  | tooDeep nesting => exact (String.empty_append).symm

theorem number?_renumber (g : Nat → Nat) (fault : ReadFault) :
    (fault.renumber g).number? = fault.number?.map g := by
  cases fault <;> rfl

theorem reason_renumber (g : Nat → Nat) (fault : ReadFault) :
    (fault.renumber g).reason = fault.reason := by
  cases fault <;> rfl

/-- Only the number of the line matters to how it is counted. -/
theorem renumber_congr {g h : Nat → Nat} {fault : ReadFault}
    (hgh : ∀ n, fault.number? = some n → g n = h n) : fault.renumber g = fault.renumber h := by
  cases fault with
  | line n f => rw [renumber, renumber, hgh n rfl]
  | longNumber digits => rfl
  | tooDeep nesting => rfl

theorem renumber_renumber (g h : Nat → Nat) (fault : ReadFault) :
    (fault.renumber g).renumber h = fault.renumber (h ∘ g) := by
  cases fault <;> rfl

theorem renumber_id (fault : ReadFault) : fault.renumber id = fault := by
  cases fault <;> rfl

end ReadFault

namespace Record

/-- A line further down gives the same, with its own number. -/
theorem ofLine_add (n k : Nat) (line : String) :
    ofLine (n + k) line = (ofLine n line).mapError (ReadFault.renumber (· + k)) := by
  unfold ofLine
  rcases Json.read line with (m | digits | nesting) | v
  case ok =>
    cases v with
    | dict t =>
      show (ofTable t).mapError _ = ((ofTable t).mapError _).mapError _
      rcases ofTable t with ⟨events, f | record⟩ <;> rfl
    | _ => rfl
  all_goals rfl

end Record

namespace Reading

open Record

variable {before after : List String} {blank : String} {fault : ReadFault} {n : Nat}

/-- A reading as part of one that began with the `k` lines of another. -/
def behind (r first : Reading) (k : Nat) : Reading where
  next := r.next + k
  read := r.read ++ first.read
  logged := r.logged ++ first.logged
  stop := r.stop.map (ReadFault.renumber (· + k))

/-- One more line gives the same behind other lines. -/
theorem push_behind (r first : Reading) (k : Nat) (line : String) :
    (r.behind first k).push line = (r.push line).behind first k := by
  obtain ⟨next, read, logged, _ | stop⟩ := r
  · by_cases hb : Text.isBlankText line = true
    · simp only [behind, push, hb, if_true, Option.map_none, Nat.add_right_comm]
    · -- Both records and log lines are kept newest first, so what is new stands in front.
      simp only [behind, push, hb, Option.map_none, ofLine_add]
      rcases ofLine next line with ⟨events, f | record⟩
      · simp [Logged.mapError, Except.mapError]
      · simp [Logged.mapError, Except.mapError, Nat.add_right_comm]
  · rfl

theorem foldl_push_behind (lines : List String) (r first : Reading) (k : Nat) :
    lines.foldl push (r.behind first k) = (lines.foldl push r).behind first k := by
  induction lines generalizing r with
  | nil => rfl
  | cons line lines ih => rw [List.foldl_cons, push_behind, ih, List.foldl_cons]

theorem ofLines_append (before after : List String) :
    ofLines (before ++ after) = after.foldl push (ofLines before) := List.foldl_append

theorem ofLines_append_of_running (h : (ofLines before).stop = none) (after : List String) :
    ofLines (before ++ after) = (ofLines after).behind (ofLines before) before.length := by
  have hnext : (ofLines before).next = before.length + 1 := by
    rw [(ofLines_eq before).2.1, untilRejected_eq_self (stop_eq_none_iff.1 h)]
  have hstart : start.behind (ofLines before) before.length = ofLines before := by
    rcases hr : ofLines before with ⟨next, read, logged, stop⟩
    rw [hr] at h hnext
    obtain rfl : stop = none := h
    obtain rfl : next = before.length + 1 := hnext
    simp [behind, start, Nat.add_comm]
  calc ofLines (before ++ after)
      = after.foldl push (start.behind (ofLines before) before.length) := by
        rw [ofLines_append, hstart]
    _ = (ofLines after).behind (ofLines before) before.length := foldl_push_behind ..

theorem ofLines_append_of_stopped (h : (ofLines before).stop = some fault) (after : List String) :
    ofLines (before ++ after) = ofLines before := by
  rw [ofLines_append]
  rcases hr : ofLines before with ⟨next, read, logged, stop⟩
  rw [hr] at h
  obtain rfl : stop = some fault := h
  exact pushAll_stopped after

/-! ## The number of the line at which reading stopped -/

theorem number_mem_range (h : (ofLines before).stop = some fault) (hn : fault.number? = some n) :
    1 ≤ n ∧ n ≤ before.length := by
  obtain ⟨upper, line, lower, hsplit, -, -, -, hf⟩ := exists_of_stop_eq_some h
  rw [number?_of_fault? hf] at hn
  split at hn
  · cases hn
  · have hlength := congrArg List.length hsplit
    simp only [List.length_append, List.length_cons] at hlength
    cases hn
    omega

/-! ## Blank lines -/

theorem ofLines_blank_cons (hb : Text.isBlankText blank = true) (after : List String) :
    ofLines (blank :: after) = (ofLines after).behind start 1 := by
  rw [ofLines, List.foldl_cons, start, push_blank hb]
  exact foldl_push_behind after start start 1

/-- The numbers of the lines when one is put behind the first ones. -/
def makeRoom (position n : Nat) : Nat := if position < n then n + 1 else n

theorem ofLines_insert_blank (hb : Text.isBlankText blank = true) (before after : List String) :
    let r := ofLines (before ++ after)
    let r' := ofLines (before ++ blank :: after)
    r'.records = r.records ∧ r'.events = r.events ∧
      r'.stop = r.stop.map (ReadFault.renumber (makeRoom before.length)) := by
  intro r r'
  cases hstop : (ofLines before).stop with
  | some fault =>
    have hr : r = ofLines before := ofLines_append_of_stopped hstop after
    have hr' : r' = ofLines before := ofLines_append_of_stopped hstop (blank :: after)
    have hsame : fault.renumber (makeRoom before.length) = fault.renumber id :=
      ReadFault.renumber_congr fun n hn => if_neg (by have := number_mem_range hstop hn; omega)
    rw [hr, hr', hstop, Option.map_some, hsame, ReadFault.renumber_id]
    exact ⟨rfl, rfl, rfl⟩
  | none =>
    have hr : r = (ofLines after).behind (ofLines before) before.length :=
      ofLines_append_of_running hstop after
    have hr' : r' = ((ofLines after).behind start 1).behind (ofLines before) before.length := by
      rw [← ofLines_blank_cons hb after]
      exact ofLines_append_of_running hstop (blank :: after)
    rw [hr, hr']
    refine ⟨by simp [behind, records, start], by simp [behind, events, start], ?_⟩
    simp only [behind, Option.map_map]
    refine Option.map_congr fun fault hfault => ?_
    simp only [Function.comp_apply, ReadFault.renumber_renumber]
    refine ReadFault.renumber_congr fun n hn => ?_
    have := number_mem_range hfault hn
    simp only [Function.comp_apply, makeRoom]
    rw [if_pos (by omega)]
    omega

/-- **Lines are read in parts.** Behind lines that were read to their end, further lines give what
they give alone, and a complaint about them has its number moved on by as many lines. Behind lines
at which reading stopped, further lines give nothing. A blank line anywhere changes no record, and
moves on the number of the complaint just when it stands before the line that is complained of.
The number stands in front of the complaint once, and does not change what is said. -/
theorem ofLines_in_parts (before after : List String) :
    ((ofLines before).stop = none →
      (ofLines (before ++ after)).records = (ofLines before).records ++ (ofLines after).records ∧
      (ofLines (before ++ after)).events = (ofLines before).events ++ (ofLines after).events ∧
      (ofLines (before ++ after)).stop =
        (ofLines after).stop.map (ReadFault.renumber (· + before.length))) ∧
    ((ofLines before).stop ≠ none →
      (ofLines (before ++ after)).records = (ofLines before).records ∧
      (ofLines (before ++ after)).events = (ofLines before).events ∧
      (ofLines (before ++ after)).stop = (ofLines before).stop) ∧
    (∀ blank, Text.isBlankText blank = true →
      (ofLines (before ++ blank :: after)).records = (ofLines (before ++ after)).records ∧
      (ofLines (before ++ blank :: after)).events = (ofLines (before ++ after)).events ∧
      (ofLines (before ++ blank :: after)).stop =
        (ofLines (before ++ after)).stop.map (ReadFault.renumber (makeRoom before.length))) ∧
    ∀ (fault : ReadFault) (g : Nat → Nat),
      (fault.renumber g).number? = fault.number?.map g ∧
      (fault.renumber g).reason = fault.reason ∧
      fault.message =
        (fault.number?.elim "" fun n => "line " ++ toString n ++ ": ") ++ fault.reason := by
  refine ⟨fun h => ?_, fun h => ?_, fun blank hb => ofLines_insert_blank hb before after,
    fun fault g => ⟨fault.number?_renumber g, fault.reason_renumber g, fault.message_eq⟩⟩
  · rw [ofLines_append_of_running h]
    exact ⟨List.reverse_append, List.reverse_append, rfl⟩
  · obtain ⟨fault, hfault⟩ := Option.ne_none_iff_exists'.1 h
    rw [ofLines_append_of_stopped hfault]
    exact ⟨rfl, rfl, rfl⟩

/-- A message, and behind it a blank line and a record of an unknown kind: the complaint is about
line 3, and about line 4 once another blank line stands in front. -/
theorem ofLines_message_then_unknown :
    let first := ["\x7b\"kind\": \"message\", \"text\": \"hi\"\x7d"]
    let second := ["", "\x7b\"kind\": \"note\"\x7d"]
    let fault : LineFault := .record (.unknownKind "note")
    (ofLines first).stop = none ∧ (ofLines second).stop = some (.line 2 fault) ∧
      Text.isBlankText " \t" = true ∧
      (ofLines (first ++ second)).records = [.message "hi"] ∧
      (ofLines (first ++ second)).stop = some (.line 3 fault) ∧
      (ofLines (first ++ " \t" :: second)).stop = some (.line 4 fault) ∧
      (ofLines (second ++ first)).stop = some (.line 2 fault) := by
  intro first second fault
  have hfirst : (ofLines first).stop = none := by decide +kernel
  have hrecords : (ofLines first).records = [.message "hi"] := by decide +kernel
  have hsecond : (ofLines second).stop = some (.line 2 fault) := by decide +kernel
  have hnone : (ofLines second).records = [] := by decide +kernel
  have hblank : Text.isBlankText " \t" = true := by decide +kernel
  obtain ⟨hrun, -, hinsert, -⟩ := ofLines_in_parts first second
  obtain ⟨hr, -, hs⟩ := hrun hfirst
  obtain ⟨-, -, hs'⟩ := hinsert " \t" hblank
  obtain ⟨-, -, hstopped⟩ := (ofLines_in_parts second first).2.1 (by rw [hsecond]; decide)
  rw [hrecords, hnone] at hr
  rw [hsecond] at hs
  rw [hs] at hs'
  exact ⟨hfirst, hsecond, hblank, hr, hs, hs', hstopped.trans hsecond⟩

end Reading

end InspectionFeed
