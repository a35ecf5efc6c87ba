/-
Findings that were read from lines can be printed: their numbers stood in the line,
or are zero where the line leaves them out (`isPrintable_of_ofLine?`). So the
reporter has a message for each of them.
-/
import InspectionFeed.Proofs.Fingerprint
import InspectionFeed.Proofs.Json.Integers
import InspectionFeed.Proofs.Record.Reading
import InspectionFeed.Proofs.Record.Schema

namespace InspectionFeed.Record

variable {t : Table} {key line : String} {v : Value} {i : Int} {vs : List Value} {d : Diagnostic}
  {l : Location}

theorem mem_of_present? (h : t.present? key = some v) : (key, v) ∈ t := by
  have hget : t.get? key = some v := by
    unfold Table.present? at h
    split at h
    · cases h
    · exact h
  obtain ⟨before, after, rfl, -⟩ := List.lookup_eq_some_iff.1 hget
  simp

/-- A whole number that may be left out is zero or an integer of the table. -/
theorem fitsNumeral_of_optional (ht : (Value.dict t).Printable)
    (h : (t.present? key).getD (.int 0) = .int i) : Text.fitsNumeral i = true := by
  cases hp : t.present? key with
  | none =>
    rw [hp, Option.getD_none] at h
    cases h
    decide
  | some v =>
    rw [hp, Option.getD_some] at h
    subst h
    exact ht i (.entry (mem_of_present? hp) .int)

theorem fitsNumeral_of_placeDescribes (hv : v.Printable) (h : PlaceDescribes v l) :
    ∀ i ∈ [l.line, l.column], Text.fitsNumeral i = true := by
  cases h with
  | place hfile hline hcolumn =>
    intro i hi
    simp only [List.mem_cons, List.not_mem_nil, or_false] at hi
    rcases hi with rfl | rfl
    · exact fitsNumeral_of_optional hv hline
    · exact fitsNumeral_of_optional hv hcolumn

/-- Each place is described by one of the values. -/
theorem exists_mem_of_forall₂ {ls : List Location} (h : List.Forall₂ PlaceDescribes vs ls)
    (hl : l ∈ ls) : ∃ v ∈ vs, PlaceDescribes v l := by
  induction h with
  | nil => cases hl
  | cons hv _ ih =>
    rcases List.mem_cons.1 hl with rfl | hl
    · exact ⟨_, List.mem_cons_self, hv⟩
    · obtain ⟨v, hmem, hdescribes⟩ := ih hl
      exact ⟨v, List.mem_cons_of_mem _ hmem, hdescribes⟩

theorem isPrintable_of_findingDescribes (ht : (Value.dict t).Printable)
    (h : FindingDescribes t d) : d.isPrintable = true := by
  cases h with
  | finding hseverity hlocations hframes hid hshort hverbose hinconclusive hcwe hfile0 =>
    rename_i places frames
    refine List.all_eq_true.2 (List.forall_mem_cons.2 ⟨fitsNumeral_of_optional ht hcwe, ?_⟩)
    intro i hi
    obtain ⟨l, hl, hi⟩ := List.mem_flatMap.1 hi
    have hplaces : ∀ v ∈ places, v.Printable := by
      cases hp : t.present? "locations" with
      | none =>
        rw [hp, Option.getD_none] at hlocations
        cases hlocations
        simp
      | some vs =>
        rw [hp, Option.getD_some] at hlocations
        subst hlocations
        exact fun v hv j hj => ht j (.entry (mem_of_present? hp) (.item hv hj))
    obtain ⟨v, hv, hdescribes⟩ := exists_mem_of_forall₂ hframes hl
    exact fitsNumeral_of_placeDescribes (hplaces v hv) hdescribes i hi

/-- A finding that a line holds can be printed. -/
theorem isPrintable_of_ofLine? (h : ofLine? line = some (.diagnostic d)) :
    d.isPrintable = true := by
  unfold ofLine? at h
  split at h
  next t hread =>
    have hresult : (ofTable t).result = .ok (.diagnostic d) := by
      cases hr : (ofTable t).result with
      | error f => rw [hr] at h; cases h
      | ok r => rw [hr] at h; cases h; rfl
    cases result_ofTable_eq_ok_iff.1 hresult with
    | diagnostic hkind hfinding =>
      exact isPrintable_of_findingDescribes (fun i => Json.fitsNumeral_of_read hread) hfinding
  next => cases h

end InspectionFeed.Record
