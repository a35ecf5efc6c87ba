/-
Paths by their components. A path is its components with a separator between
each two, so nothing is lost by splitting it, and a path that is put behind
a separator adds its components to those before it.

A base is above a path when its components begin those of the path and the
path has more (`IsAbove`). A path is cut after a base just when the base is
above it, and what is left are the further components (`cutAfter?_eq_some_iff`),
so no cut is made inside a component.
-/
import InspectionFeed.Path.Relative
import Mathlib.Data.List.Basic

namespace InspectionFeed.Path

theorem components_eq_splitOn (cs : List Char) : components cs = cs.splitOn '/' := by
  induction cs with
  | nil => rfl
  | cons c cs ih =>
    rw [components, ih, List.splitOn_cons_eq_if_modifyHead]
    by_cases hc : c = '/'
    · simp [hc]
    · simp only [hc, if_false, beq_iff_eq]
      cases h : cs.splitOn '/' with
      | nil => exact absurd h (List.splitOn_ne_nil _ _)
      | cons w ws => rfl

theorem joinComponents_eq_intercalate : ∀ ws : List (List Char),
    joinComponents ws = ['/'].intercalate ws
  | [] => rfl
  | [w] => List.intercalate_singleton.symm
  | w :: v :: ws => by
    rw [joinComponents, joinComponents_eq_intercalate (v :: ws), List.intercalate_cons_cons]
    · simp
    · simp

theorem components_ne_nil (cs : List Char) : components cs ≠ [] := by
  rw [components_eq_splitOn]
  exact List.splitOn_ne_nil _ _

theorem joinComponents_components (cs : List Char) : joinComponents (components cs) = cs := by
  rw [components_eq_splitOn, joinComponents_eq_intercalate, List.intercalate_splitOn]

theorem components_inj {a b : List Char} : components a = components b ↔ a = b := by
  refine ⟨fun h => ?_, congrArg components⟩
  rw [← joinComponents_components a, h, joinComponents_components]

theorem components_joinComponents {ws : List (List Char)} (hws : ∀ w ∈ ws, '/' ∉ w)
    (hne : ws ≠ []) : components (joinComponents ws) = ws := by
  rw [components_eq_splitOn, joinComponents_eq_intercalate, List.splitOn_intercalate _ hws hne]

theorem components_append (a b : List Char) :
    components (a ++ '/' :: b) = components a ++ components b := by
  simp only [components_eq_splitOn, List.splitOn_append_cons_self]

theorem separator_notMem_of_mem_components {cs w : List Char} (h : w ∈ components cs) :
    '/' ∉ w := by
  induction cs generalizing w with
  | nil => simp_all [components]
  | cons c cs ih =>
    rw [components] at h
    split at h
    · rcases List.mem_cons.1 h with rfl | h
      · simp
      · exact ih h
    next hc =>
      cases hcs : components cs with
      | nil => exact absurd hcs (components_ne_nil cs)
      | cons v vs =>
        rw [hcs] at h ih
        rcases List.mem_cons.1 h with rfl | h
        · have := ih (w := v) (by simp)
          simp only [List.mem_cons, not_or]
          exact ⟨fun he => hc he.symm, this⟩
        · exact ih (List.mem_cons_of_mem _ h)

theorem joinComponents_append {as bs : List (List Char)} (ha : as ≠ []) (hb : bs ≠ []) :
    joinComponents (as ++ bs) = joinComponents as ++ '/' :: joinComponents bs := by
  obtain ⟨b, bs, rfl⟩ := List.exists_cons_of_ne_nil hb
  induction as with
  | nil => exact absurd rfl ha
  | cons a as ih =>
    cases as with
    | nil => rfl
    | cons a' as =>
      simp only [List.cons_append, joinComponents] at ih ⊢
      rw [ih (by simp)]
      simp

/-- The last character of joined components is that of the last one. -/
theorem getLast?_joinComponents (ws : List (List Char)) {w : List Char} (hw : w ≠ []) :
    (joinComponents (ws ++ [w])).getLast? = w.getLast? := by
  cases ws with
  | nil => rfl
  | cons v vs =>
    rw [joinComponents_append (by simp) (by simp), List.getLast?_append]
    show (('/' :: w).getLast?).or _ = _
    rw [List.getLast?_cons_of_ne_nil hw]
    cases h : w.getLast? with
    | none => exact absurd (List.getLast?_eq_none_iff.1 h) hw
    | some c => rfl

/-! ## Bases above a path -/

/-- The components of a directory. A separator at its end adds none. -/
def directoryComponents (base : List Char) : List (List Char) :=
  if base.getLast? = some '/' then (components base).dropLast else components base

/-- The base is a directory above the path: there is such a base, it is not the path itself, and
the components of the path are those of the base and some more. -/
def IsAbove (base path : String) : Prop :=
  forward base ≠ "" ∧ forward base ≠ path ∧
    ∃ rest ≠ [], components path.toList = directoryComponents (forward base).toList ++ rest

theorem components_asDirectory_append (base rest : List Char) :
    components (asDirectory base ++ rest) = directoryComponents base ++ components rest := by
  unfold asDirectory directoryComponents
  by_cases h : base.getLast? = some '/'
  · obtain ⟨front, rfl⟩ := List.getLast?_eq_some_iff.1 h
    simp only [List.getLast?_concat, if_true, List.append_assoc, List.singleton_append,
      components_append]
    rw [show components [] = [[]] from rfl, List.dropLast_concat]
  · simp only [if_neg h, List.append_assoc, List.singleton_append, components_append]

/-- A path is cut after a base exactly when its components are those of the base and those of
what is left. -/
theorem cutAfter?_eq_some_iff {path base : String} {cut : Cut} :
    cutAfter? path base = some cut ↔
      forward base ≠ "" ∧ forward base ≠ path ∧ cut.base = forward base ∧
        components path.toList =
          directoryComponents (forward base).toList ++ components cut.rest.toList := by
  unfold cutAfter?
  dsimp only
  split
  next h =>
    simp only [reduceCtorEq, false_iff]
    rintro ⟨hne, hpath, -⟩
    exact h.elim hne hpath
  next h =>
    simp only [not_or] at h
    rw [← components_asDirectory_append, components_inj, Option.map_eq_some_iff]
    simp only [List.isPrefixOf?_eq_some_iff_append_eq, h, ne_eq, not_false_eq_true, true_and]
    obtain ⟨cutBase, rest⟩ := cut
    constructor
    · rintro ⟨chars, hchars, heq⟩
      obtain ⟨rfl, rfl⟩ := Cut.mk.inj heq
      exact ⟨rfl, by rw [String.toList_ofList, hchars]⟩
    · rintro ⟨rfl, hpath⟩
      exact ⟨rest.toList, hpath.symm, by rw [String.ofList_toList]⟩

theorem isAbove_iff {path base : String} :
    IsAbove base path ↔ ∃ cut, cutAfter? path base = some cut := by
  constructor
  · rintro ⟨hne, hpath, rest, hrest, hcomponents⟩
    have hseparator : ∀ w ∈ rest, '/' ∉ w := by
      intro w hw
      have hmem : w ∈ components path.toList := by simp [hcomponents, hw]
      exact separator_notMem_of_mem_components hmem
    refine ⟨⟨forward base, .ofList (joinComponents rest)⟩, cutAfter?_eq_some_iff.2
      ⟨hne, hpath, rfl, ?_⟩⟩
    rw [String.toList_ofList, components_joinComponents hseparator hrest, hcomponents]
  · rintro ⟨cut, hcut⟩
    obtain ⟨hne, hpath, -, hrest⟩ := cutAfter?_eq_some_iff.1 hcut
    exact ⟨hne, hpath, _, components_ne_nil _, hrest⟩

instance (base path : String) : Decidable (IsAbove base path) :=
  decidable_of_iff ((cutAfter? path base).isSome = true) (by
    rw [isAbove_iff, Option.isSome_iff_exists])

theorem cutAfter?_of_not_isAbove {path base : String} (h : ¬ IsAbove base path) :
    cutAfter? path base = none :=
  Option.eq_none_iff_forall_ne_some.2 fun cut hcut => h (isAbove_iff.2 ⟨cut, hcut⟩)

/-- The first base above the path decides, whatever bases come behind it. -/
theorem relative_of_first {path base : String} {before : List String} {cut : Cut}
    (hbefore : ∀ b ∈ before, ¬ IsAbove b path) (hcut : cutAfter? path base = some cut)
    (after : List String) :
    relative path (before ++ base :: after) = cut.rest := by
  have hnone : before.findSome? (cutAfter? path) = none :=
    List.findSome?_eq_none_iff.2 fun b hb => cutAfter?_of_not_isAbove (hbefore b hb)
  simp only [relative, firstCut?, List.findSome?_append, hnone, Option.none_or,
    List.findSome?_cons, hcut]

end InspectionFeed.Path
