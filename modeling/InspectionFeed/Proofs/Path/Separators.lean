/-
Paths and their separators. Turning separators forward leaves none of the other
kind, and two paths come out the same just when they differ in nothing but the
separators they are spelled with (`forward_eq_iff`).
-/
import InspectionFeed.Path.Separators
import Mathlib.Data.List.Forall2

namespace InspectionFeed.Path

variable {a b path : String} {c d : Char}

/-! ## Turned forward -/

theorem toList_forward (path : String) : (forward path).toList = path.toList.map forwardChar :=
  String.toList_ofList

theorem forwardChar_forwardChar (c : Char) : forwardChar (forwardChar c) = forwardChar c := by
  unfold forwardChar
  by_cases h : c = '\\' <;> simp [h]

theorem forward_forward (path : String) : forward (forward path) = forward path := by
  apply String.toList_inj.1
  simp [toList_forward, forwardChar_forwardChar]

theorem isAbsolute_forward (path : String) : isAbsolute (forward path) = isAbsolute path := by
  rw [isAbsolute, forward_forward, isAbsolute]

theorem isAbsolute_of_root (h : path.toList.head? = some '/') : isAbsolute path = true := by
  obtain ⟨cs, hcs⟩ := List.head?_eq_some_iff.1 h
  rw [isAbsolute, toList_forward, hcs]
  rfl

theorem map_forwardChar_of_notMem {cs : List Char} (h : '\\' ∉ cs) : cs.map forwardChar = cs :=
  calc
    cs.map forwardChar = cs.map id :=
      List.map_congr_left fun c hc => if_neg (by rintro rfl; exact h hc)
    _ = cs := List.map_id cs

theorem backslash_notMem_forward (path : String) : '\\' ∉ (forward path).toList := by
  rw [toList_forward, List.mem_map]
  rintro ⟨c, -, hc⟩
  unfold forwardChar at hc
  split at hc
  · cases hc
  next h => exact h hc

theorem forward_eq_empty_iff : forward path = "" ↔ path = "" := by
  rw [← String.toList_inj, ← String.toList_inj, toList_forward]
  exact List.map_eq_nil_iff

/-! ## Spellings -/

/-- A separator of either kind. -/
def IsSeparator (c : Char) : Prop := c = '/' ∨ c = '\\'

instance (c : Char) : Decidable (IsSeparator c) := inferInstanceAs (Decidable (_ ∨ _))

/-- The paths differ in nothing but the separators they are spelled with. -/
def Respelled (a b : String) : Prop :=
  List.Forall₂ (fun c d => c = d ∨ IsSeparator c ∧ IsSeparator d) a.toList b.toList

theorem forwardChar_eq_separator_iff : forwardChar c = '/' ↔ IsSeparator c := by
  unfold forwardChar IsSeparator
  by_cases hc : c = '\\' <;> simp [hc]

theorem forwardChar_eq_iff :
    forwardChar c = forwardChar d ↔ c = d ∨ IsSeparator c ∧ IsSeparator d := by
  by_cases hc : c = '\\' <;> by_cases hd : d = '\\' <;> grind [forwardChar, IsSeparator]

theorem forward_eq_iff : forward a = forward b ↔ Respelled a b := by
  rw [← String.toList_inj, toList_forward, toList_forward, ← List.forall₂_eq_eq_eq,
    List.forall₂_map_left_iff, List.forall₂_map_right_iff]
  simp only [forwardChar_eq_iff, Respelled]

instance (a b : String) : Decidable (Respelled a b) := decidable_of_iff _ forward_eq_iff

/-- The path has a separator at its end. -/
def EndsAtSeparator (path : String) : Prop := ∃ c ∈ path.toList.getLast?, IsSeparator c

theorem endsAtSeparator_iff :
    EndsAtSeparator path ↔ (forward path).toList.getLast? = some '/' := by
  rw [toList_forward, List.getLast?_map, Option.map_eq_some_iff]
  exact exists_congr fun c => and_congr_right' forwardChar_eq_separator_iff.symm

instance (path : String) : Decidable (EndsAtSeparator path) :=
  decidable_of_iff _ endsAtSeparator_iff.symm

end InspectionFeed.Path
