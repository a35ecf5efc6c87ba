/-
Building a registry from providers. It succeeds just when their names are
distinct, and then the registry holds them in order (`exists_ofList_iff`,
`providers_of_ofList`); otherwise the first provider whose name an earlier one
has is refused (`ofList_eq_error_iff`).
-/
import InspectionFeed.Registry
import Mathlib.Data.List.Nodup

namespace InspectionFeed

namespace Registry

variable {r r' : Registry} {p old : Provider} {ps before after : List Provider} {name : String}

/-! ## Names -/

/-- With distinct names, no other provider has the name of this one. -/
theorem name_ne_of_nodup (h : ((before ++ old :: after).map Provider.name).Nodup) :
    ∀ q ∈ before ++ after, q.name ≠ old.name := by
  rw [List.map_append, List.map_cons, List.nodup_middle, List.nodup_cons, ← List.map_append] at h
  intro q hq heq
  exact h.1 (heq ▸ List.mem_map_of_mem hq)

theorem not_nodup_of_mem (h : p.name ∈ before.map Provider.name) :
    ¬ ((before ++ p :: after).map Provider.name).Nodup := by
  intro hd
  obtain ⟨q, hq, hname⟩ := List.mem_map.1 h
  exact name_ne_of_nodup hd q (List.mem_append_left _ hq) hname

theorem mem_names (hr : r.providers = before ++ p :: after) : p.name ∈ r.names := by
  rw [names, hr]
  exact List.mem_map_of_mem (List.mem_append_right _ List.mem_cons_self)

/-! ## Registering in order -/

theorem register_eq_ok (h : p.name ∉ r.names) : r.register p false = .ok (r.append p h) :=
  dif_neg h

theorem register_eq_error (h : p.name ∈ r.names) : r.register p false = .error p.name := by
  rw [register, dif_pos h]
  rfl

/-- Registering providers adds them in order, up to the first whose name is known by then. -/
theorem registerAll_cases (r : Registry) (ps : List Provider) :
    (∃ r', r.registerAll ps = .ok r' ∧ r'.providers = r.providers ++ ps) ∨
      ∃ before p after, ps = before ++ p :: after ∧
        (r.names ++ before.map Provider.name).Nodup ∧
        p.name ∈ r.names ++ before.map Provider.name ∧ r.registerAll ps = .error p.name := by
  induction ps generalizing r with
  | nil => exact .inl ⟨r, rfl, (List.append_nil _).symm⟩
  | cons p ps ih =>
    by_cases h : p.name ∈ r.names
    · refine .inr ⟨[], p, ps, rfl, ?_, ?_, ?_⟩
      · rw [List.map_nil, List.append_nil]
        exact r.distinct
      · simpa using h
      · rw [registerAll, register_eq_error h]
        rfl
    · have hstep : r.registerAll (p :: ps) = (r.append p h).registerAll ps := by
        rw [registerAll, register_eq_ok h]
        rfl
      have hnames : (r.append p h).names = r.names ++ [p.name] := List.map_append
      rw [hstep]
      rcases ih (r.append p h) with ⟨r', hr', hp⟩ | ⟨before, q, after, rfl, hd, hq, he⟩
      · exact .inl ⟨r', hr', hp.trans (List.append_assoc ..)⟩
      · rw [hnames, List.append_assoc] at hd hq
        exact .inr ⟨p :: before, q, after, rfl, hd, hq, he⟩

theorem registerAll_append_of_ok {more : List Provider} (h : r.registerAll ps = .ok r') :
    r.registerAll (ps ++ more) = r'.registerAll more := by
  induction ps generalizing r with
  | nil =>
    cases h
    rfl
  | cons p ps ih =>
    rw [List.cons_append, registerAll]
    rw [registerAll] at h
    cases hp : r.register p false with
    | error name =>
      rw [hp] at h
      cases h
    | ok r₁ =>
      rw [hp] at h
      exact ih h

theorem ofList_cases (ps : List Provider) :
    (∃ r, ofList ps = .ok r ∧ r.providers = ps) ∨
      ∃ before p after, ps = before ++ p :: after ∧ (before.map Provider.name).Nodup ∧
        p.name ∈ before.map Provider.name ∧ ofList ps = .error p.name :=
  registerAll_cases empty ps

theorem exists_ofList_iff : (∃ r, ofList ps = .ok r) ↔ (ps.map Provider.name).Nodup := by
  rcases ofList_cases ps with ⟨r, hr, rfl⟩ | ⟨before, p, after, rfl, -, hp, he⟩
  · exact ⟨fun _ => r.distinct, fun _ => ⟨r, hr⟩⟩
  · refine ⟨fun ⟨r, hr⟩ => ?_, fun hd => absurd hd (not_nodup_of_mem hp)⟩
    rw [he] at hr
    cases hr

theorem providers_of_ofList (h : ofList ps = .ok r) : r.providers = ps := by
  rcases ofList_cases ps with ⟨r', hr, hp⟩ | ⟨_, _, _, -, -, -, he⟩
  · rw [hr] at h
    cases h
    exact hp
  · rw [he] at h
    cases h

theorem ofList_eq_error_iff : ofList ps = .error name ↔
    ∃ before p after, ps = before ++ p :: after ∧ (before.map Provider.name).Nodup ∧
      p.name ∈ before.map Provider.name ∧ p.name = name := by
  constructor
  · intro h
    rcases ofList_cases ps with ⟨r, hr, -⟩ | ⟨before, p, after, hps, hd, hp, he⟩
    · rw [hr] at h
      cases h
    · rw [he] at h
      exact ⟨before, p, after, hps, hd, hp, Except.error.inj h⟩
  · rintro ⟨before, p, after, rfl, hd, hp, rfl⟩
    -- The providers before it are registered, and then its name is known.
    obtain ⟨r, hr⟩ := exists_ofList_iff.2 hd
    have hknown : p.name ∈ r.names := by rwa [names, providers_of_ofList hr]
    rw [ofList, registerAll_append_of_ok hr, registerAll, register_eq_error hknown]
    rfl

end Registry

end InspectionFeed
