/-
Findings written as records and read back. Every field of a finding's table is
read as what was written there, no default stands in for any of them, and the
severity is known by its key, so reading gives the finding again and has
nothing to warn of (`ofTable_toTable`). So tables tell findings apart exactly
as fingerprints do.
-/
import InspectionFeed.Proofs.Fingerprint
import InspectionFeed.Record.Encode

namespace InspectionFeed

/-! ## Severities -/

/-- A severity is known by its key: no earlier one is spelled like it. -/
theorem Severity.parse?_key (s : Severity) : parse? s.key = some s := by
  cases s <;> decide +kernel

namespace Record

/-! ## Fields -/

variable {α : Type} {type : FieldType α} {t : Table} {key : String} {v : Value} {a : α}

theorem required_of_present (hp : t.present? key = some v) (hv : type.content? v = some a) :
    required type t key = .ok a := by
  simp only [required, hp, hv]

theorem optional_of_present (hp : t.present? key = some v) (hv : type.content? v = some a)
    (default : α) : optional type t key default = .ok a := by
  rw [optional, hp, Option.isNone_some, if_neg Bool.false_ne_true, required_of_present hp hv]

end Record

/-! ## Places -/

theorem Location.ofTable_toTable (l : Location) : ofTable l.toTable = .ok l := by
  have hfile : Record.required Record.text l.toTable "file" = .ok l.file :=
    Record.required_of_present (v := .str l.file) rfl rfl
  have hline : Record.optional Record.whole l.toTable "line" 0 = .ok l.line :=
    Record.optional_of_present (v := .int l.line) rfl rfl 0
  have hcolumn : Record.optional Record.whole l.toTable "column" 0 = .ok l.column :=
    Record.optional_of_present (v := .int l.column) rfl rfl 0
  simp only [ofTable, hfile, hline, hcolumn]
  rfl

theorem Location.mapM_ofValue_toTable (ls : List Location) :
    (ls.map fun l => Value.dict l.toTable).mapM ofValue = .ok ls := by
  induction ls with
  | nil => rfl
  | cons l ls ih =>
    rw [List.map_cons, List.mapM_cons, ih]
    show (do let l ← ofTable l.toTable; pure (l :: ls)) = Except.ok (l :: ls)
    rw [ofTable_toTable]
    rfl

/-! ## Findings -/

namespace Diagnostic

/-- A finding is made of its parts: its detailed text is empty only if the short one is. -/
theorem make_parts (d : Diagnostic) :
    make d.kind d.short d.verbose d.severity d.inconclusive d.cwe d.frames d.file0 = d := by
  simp only [make, detailedText_of_default d.short_of_verbose]

theorem ofTable_toTable (d : Diagnostic) : ofTable d.toTable = ⟨[], .ok d⟩ := by
  have hseverity : Record.optional Record.text d.toTable "severity" Severity.none.key =
      .ok d.severity.key := Record.optional_of_present (v := .str d.severity.key) rfl rfl _
  have hlocations : Record.optional Record.items d.toTable "locations" [] =
      .ok (d.frames.map fun l => .dict l.toTable) :=
    Record.optional_of_present (v := .list (d.frames.map fun l => .dict l.toTable)) rfl rfl _
  have hid : Record.required Record.text d.toTable "id" = .ok d.kind :=
    Record.required_of_present (v := .str d.kind) rfl rfl
  have hshort : Record.required Record.text d.toTable "short" = .ok d.short :=
    Record.required_of_present (v := .str d.short) rfl rfl
  have hverbose : Record.optional Record.text d.toTable "verbose" "" = .ok d.verbose :=
    Record.optional_of_present (v := .str d.verbose) rfl rfl _
  have hinconclusive : Record.optional Record.flag d.toTable "inconclusive" false =
      .ok d.inconclusive := Record.optional_of_present (v := .bool d.inconclusive) rfl rfl _
  have hcwe : Record.optional Record.whole d.toTable "cwe" 0 = .ok d.cwe :=
    Record.optional_of_present (v := .int d.cwe) rfl rfl _
  have hfile0 : Record.optional Record.text d.toTable "file0" "" = .ok d.file0 :=
    Record.optional_of_present (v := .str d.file0) rfl rfl _
  have hparts : make d.kind d.short d.verbose (Severity.orNone d.severity.key) d.inconclusive
      d.cwe d.frames d.file0 = d := by
    rw [Severity.orNone, Severity.parse?_key, Option.getD_some, make_parts]
  have hevents : Severity.unknownEvents d.severity.key = [] := by
    rw [Severity.unknownEvents, Severity.parse?_key]; rfl
  simp only [ofTable, hseverity, hlocations, hid, hshort, hverbose, hinconclusive, hcwe, hfile0,
    Logged.lift, Logged.emit, Logged.bind_ok, hevents, List.nil_append]
  simp only [bind, Except.bind, pure, Except.pure, Location.mapM_ofValue_toTable, hparts]

theorem record_ofTable_toTable (d : Diagnostic) :
    Record.ofTable d.toTable = ⟨[], .ok (.diagnostic d)⟩ := by
  have hkind : Record.required Record.text d.toTable "kind" = .ok "diagnostic" :=
    Record.required_of_present (v := .str "diagnostic") rfl rfl
  simp only [Record.ofTable, hkind, Logged.lift, Logged.bind_ok, if_true, ofTable_toTable,
    Logged.pure_eq, List.append_nil]

/-- What a table was read as says all that a record of it says. -/
theorem ofTable_again (t : Table) :
    (ofTable t).result.bind (fun d => (ofTable d.toTable).result) = (ofTable t).result := by
  cases h : (ofTable t).result with
  | error f => rfl
  | ok d =>
    show (ofTable d.toTable).result = .ok d
    rw [ofTable_toTable]

theorem toTable_injective : Function.Injective toTable := by
  intro a b h
  have hread := ofTable_toTable a
  rw [h, ofTable_toTable b] at hread
  simpa using hread.symm

/-- **A finding written as a record is read back as it was**, without a warning. So a table that
was read as a finding is read as the same finding after it was written again, and two findings have
the same table exactly when they are the same. If they can be printed, that is when they have the
same fingerprint; no others have one. -/
theorem toTable_roundTrip (a b : Diagnostic) (t : Table) :
    Record.ofTable a.toTable = ⟨[], .ok (.diagnostic a)⟩ ∧
      (ofTable t).result.bind (fun d => (ofTable d.toTable).result) = (ofTable t).result ∧
      (a.toTable = b.toTable ↔ a = b) ∧
      ((∃ x, a.fingerprint? = some x ∧ b.fingerprint? = some x) ↔
        a.toTable = b.toTable ∧ a.isPrintable = true) := by
  have htable : a.toTable = b.toTable ↔ a = b := toTable_injective.eq_iff
  refine ⟨record_ofTable_toTable a, ofTable_again t, htable, ?_⟩
  rw [htable]
  exact exists_fingerprint?_iff

/-- A finding with a number of one digit too many is written as a record and read back, but has no
fingerprint to agree with. -/
theorem long_number_only_in_table :
    let d : Diagnostic := .make "k" "s" "" .none false (10 ^ 4300) [] ""
    (∀ x, d.fingerprint? ≠ some x) ∧
      ¬ (d.toTable = d.toTable ↔ ∃ x, d.fingerprint? = some x ∧ d.fingerprint? = some x) := by
  intro d
  have hp : d.isPrintable = false := not_isPrintable_of_cwe rfl
  have hnone : ∀ x, d.fingerprint? ≠ some x := fun x hx => by
    rw [← isSome_fingerprint?, hx] at hp
    cases hp
  refine ⟨hnone, fun h => ?_⟩
  obtain ⟨x, hx, -⟩ := h.1 rfl
  exact hnone x hx

end Diagnostic

end InspectionFeed
