/-
The whole numbers of a value that was read as JSON can be printed again: each of
them stood in the text, with no more digits than a numeral may have
(`fitsNumeral_of_read`).
-/
import InspectionFeed.Json.Reader
import InspectionFeed.Proofs.Text.Numeral

namespace InspectionFeed

/-- The whole number is the value, or it is somewhere inside. -/
inductive Value.HasInteger (i : Int) : Value → Prop
  | int : HasInteger i (.int i)
  | item {v : Value} {vs : List Value} (hv : v ∈ vs) (h : HasInteger i v) : HasInteger i (.list vs)
  | entry {key : String} {v : Value} {t : Table} (hv : (key, v) ∈ t) (h : HasInteger i v) :
    HasInteger i (.dict t)

/-- All whole numbers of the value can be printed. -/
def Value.Printable (v : Value) : Prop := ∀ i, v.HasInteger i → Text.fitsNumeral i = true

namespace Value

variable {i : Int} {v : Value} {vs : List Value} {t : Table}

theorem printable_int (h : Text.fitsNumeral i = true) : Printable (.int i) := by
  rintro j ⟨⟩
  exact h

theorem printable_list (h : ∀ v ∈ vs, v.Printable) : Printable (.list vs) := by
  rintro i ⟨⟩
  next v hv hi => exact h v hi i hv

theorem printable_dict (h : ∀ e ∈ t, e.2.Printable) : Printable (.dict t) := by
  rintro i ⟨⟩
  next key v hv hi => exact h (key, v) hi i hv

theorem printable_insert (key : String) (h : ∀ e ∈ t, e.2.Printable) (hv : v.Printable) :
    ∀ e ∈ t.insert key v, e.2.Printable := by
  intro e he
  unfold Table.insert at he
  split at he
  · obtain ⟨e', he', rfl⟩ := List.mem_map.1 he
    split
    · exact hv
    · exact h e' he'
  · rcases List.mem_append.1 he with he | he
    · exact h e he
    · rw [List.mem_singleton.1 he]
      exact hv

end Value

namespace Json

variable {cs ds rest : List Char} {v : Value} {negative : Bool}

/-! ## Numbers -/

theorem digitsValue_lt (h : ∀ d ∈ ds, d.isDigit = true) : digitsValue ds < 10 ^ ds.length := by
  have hdigits : ∀ n ∈ (ds.map (·.toNat - 48)).reverse, n < 10 := by
    intro n hn
    obtain ⟨d, hd, rfl⟩ := List.mem_map.1 (List.mem_reverse.1 hn)
    have hdigit := h d hd
    simp only [Char.isDigit, Bool.and_eq_true, decide_eq_true_eq] at hdigit
    obtain ⟨-, hle⟩ := hdigit
    have : d.toNat ≤ 57 := hle
    omega
  have hlt := Nat.ofDigits_lt_base_pow_length (by decide) hdigits
  rwa [List.length_reverse, List.length_map, ← Text.ofDigitValues_eq] at hlt

theorem isDigit_of_wholeDigits {whole : List Char} (h : wholeDigits cs = some (whole, rest)) :
    ∀ d ∈ whole, d.isDigit = true := by
  unfold wholeDigits at h
  split at h
  · cases h
    simp
  · split at h
    next hc =>
      cases h
      intro d hd
      rcases List.mem_cons.1 hd with rfl | hd
      · exact hc
      · exact List.mem_takeWhile_imp hd
    next => cases h
  · cases h

theorem printable_of_unsignedNumber (h : unsignedNumber negative cs = .ok (v, rest)) :
    v.Printable := by
  unfold unsignedNumber at h
  split at h
  · cases h
  next whole tail hwhole =>
    dsimp only at h
    split at h
    · split at h
      · cases h
      next hl =>
        cases h
        have hlt := digitsValue_lt (isDigit_of_wholeDigits hwhole)
        have hle : 10 ^ whole.length ≤ 10 ^ Text.numeralLimit :=
          Nat.pow_le_pow_right (by decide) (Nat.not_lt.1 hl)
        refine Value.printable_int (Text.fitsNumeral_iff.2 ?_)
        cases negative <;> simp <;> omega
    · cases h
      nofun

theorem printable_of_atom (h : atom cs = .ok (v, rest)) : v.Printable := by
  unfold atom at h
  split at h
  case h_7 =>
    split at h
    · exact printable_of_unsignedNumber h
    · exact printable_of_unsignedNumber h
  all_goals
    cases h
    nofun

/-! ## Values -/

theorem printable_of_value_entries_items (fuel : Nat) :
    (∀ {room cs v rest}, value fuel room cs = .ok (v, rest) → v.Printable) ∧
      (∀ {room t cs v rest}, (∀ e ∈ t, e.2.Printable) → entries fuel room t cs = .ok (v, rest) →
        v.Printable) ∧
      ∀ {room read cs v rest}, (∀ v ∈ read, v.Printable) →
        items fuel room read cs = .ok (v, rest) → v.Printable := by
  induction fuel with
  | zero => exact ⟨nofun, fun _ => nofun, fun _ => nofun⟩
  | succ fuel ih =>
    obtain ⟨hvalue, hentries, hitems⟩ := ih
    refine ⟨fun h => ?_, fun ht h => ?_, fun hread h => ?_⟩
    · unfold value at h
      split at h
      next quoted =>
        cases hs : string quoted with
        | error f => rw [hs] at h; cases h
        | ok s => rw [hs] at h; cases h; nofun
      · split at h
        · cases h
          exact Value.printable_dict (List.forall_mem_nil _)
        · exact hentries (List.forall_mem_nil _) h
      · split at h
        · cases h
          exact Value.printable_list (List.forall_mem_nil _)
        · exact hitems (List.forall_mem_nil _) h
      · cases h
      · cases h
      · exact printable_of_atom h
    · unfold entries at h
      split at h
      next =>
        split at h
        · cases h
        next key _ _ =>
          split at h
          · split at h
            · cases h
            next v _ hv =>
              have ht' := Value.printable_insert key ht (hvalue hv)
              dsimp only at h
              split at h
              · cases h
                exact Value.printable_dict ht'
              · exact hentries ht' h
              · cases h
          · cases h
      · cases h
    · unfold items at h
      split at h
      · cases h
      next v _ hv =>
        have hread' := List.forall_mem_cons.2 ⟨hvalue hv, hread⟩
        split at h
        · cases h
          exact Value.printable_list fun v hv => hread' v (List.mem_reverse.1 hv)
        · exact hitems hread' h
        · cases h

/-- **What is read can be printed again.** -/
theorem fitsNumeral_of_read {text : String} {i : Int} (h : read text = .ok v)
    (hi : v.HasInteger i) : Text.fitsNumeral i = true := by
  unfold read at h
  dsimp only at h
  split at h
  · cases h
  · split at h
    · cases h
    next hv =>
      split at h
      · cases h
        exact (printable_of_value_entries_items _).1 hv i hi
      · cases h

end Json

end InspectionFeed
