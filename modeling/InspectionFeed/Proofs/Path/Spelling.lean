/-
A report renders the same however its paths are spelled (`reportPath_respelled`).
Which separators stand in a path or in a base makes no difference, since only
their forward form is looked at. Nor does a separator at the end of a base, for
a path that has none there: the base is cut with its separator in any case, and
with one at its end it cannot be the path itself.
-/
import InspectionFeed.Proofs.Path.Report

namespace InspectionFeed.Path

/-- Two spellings of a base that make no difference to a path: with other separators, and with one
more at the end of a base that is not empty and has none there, if the path has none there
either. -/
inductive SameBase (path : String) : String → String → Prop
  | respelled {a b : String} (h : Respelled a b) : SameBase path a b
  | ended {a b : String} (hpath : ¬ EndsAtSeparator path) (hne : a ≠ "")
    (hend : ¬ EndsAtSeparator a) (h : Respelled (a.push '/') b) : SameBase path a b

variable {path path' base rest a b : String} {bases bases' : List String}

/-- What is left behind a base is what stands behind it as a directory. -/
theorem rest_cutAfter?_eq_some_iff :
    (cutAfter? path base).map Cut.rest = some rest ↔
      forward base ≠ "" ∧ forward base ≠ path ∧
        path.toList = asDirectory (forward base).toList ++ rest.toList := by
  rw [← components_inj, components_asDirectory_append, Option.map_eq_some_iff]
  simp only [cutAfter?_eq_some_iff]
  constructor
  · rintro ⟨cut, ⟨hne, hpath, -, hrest⟩, rfl⟩
    exact ⟨hne, hpath, hrest⟩
  · rintro ⟨hne, hpath, hrest⟩
    exact ⟨⟨forward base, rest⟩, ⟨hne, hpath, rfl, hrest⟩, rfl⟩

theorem cutAfter?_respelled (h : Respelled a b) (path : String) :
    cutAfter? path a = cutAfter? path b := by
  rw [cutAfter?, cutAfter?, forward_eq_iff.2 h]

/-- A separator at the end of a base changes nothing for a path that has none there. -/
theorem rest_cutAfter?_ended (hpath : path.toList.getLast? ≠ some '/') (hne : a ≠ "")
    (hend : ¬ EndsAtSeparator a) (h : Respelled (a.push '/') b) :
    (cutAfter? path a).map Cut.rest = (cutAfter? path b).map Cut.rest := by
  have ha : asDirectory (forward a).toList = (forward a).toList ++ ['/'] :=
    if_neg (mt endsAtSeparator_iff.2 hend)
  have hb : (forward b).toList = (forward a).toList ++ ['/'] := by
    rw [← forward_eq_iff.2 h]
    simp [toList_forward, forwardChar]
  have hlast : (forward b).toList.getLast? = some '/' := by rw [hb, List.getLast?_concat]
  have hdirectory : asDirectory (forward b).toList = asDirectory (forward a).toList := by
    rw [asDirectory, if_pos hlast, hb, ha]
  ext rest
  rw [rest_cutAfter?_eq_some_iff, rest_cutAfter?_eq_some_iff, hdirectory]
  constructor
  · rintro ⟨-, -, hrest⟩
    refine ⟨?_, ?_, hrest⟩
    · intro hempty
      rw [hempty] at hlast
      cases hlast
    · intro hself
      exact hpath (hself ▸ hlast)
  · rintro ⟨-, -, hrest⟩
    refine ⟨mt forward_eq_empty_iff.1 hne, ?_, hrest⟩
    -- The path is longer than the base, by a separator at least.
    intro hself
    have hlength := congrArg List.length hrest
    rw [ha, ← hself] at hlength
    simp only [List.length_append, List.length_singleton] at hlength
    omega

theorem SameBase.rest_cutAfter? (h : SameBase path a b) :
    (cutAfter? (forward path) a).map Cut.rest = (cutAfter? (forward path) b).map Cut.rest := by
  cases h with
  | respelled h => rw [cutAfter?_respelled h]
  | ended hpath hne hend h => exact rest_cutAfter?_ended (mt endsAtSeparator_iff.2 hpath) hne hend h

theorem relative_eq_getD (path : String) (bases : List String) :
    relative path bases = ((firstCut? path bases).map Cut.rest).getD path := by
  unfold relative
  cases firstCut? path bases <;> rfl

/-- Bases that leave the same of a path, one by one, do so together. -/
theorem relative_congr
    (h : List.Forall₂ (fun a b => (cutAfter? path a).map Cut.rest = (cutAfter? path b).map Cut.rest)
      bases bases') :
    relative path bases = relative path bases' := by
  rw [relative_eq_getD, relative_eq_getD]
  congr 1
  induction h with
  | nil => rfl
  | @cons a b bases bases' hab _ ih =>
    rw [firstCut?, firstCut?, List.findSome?_cons, List.findSome?_cons]
    cases ha : cutAfter? path a with
    | none =>
      rw [ha, Option.map_none, eq_comm, Option.map_eq_none_iff] at hab
      rw [hab]
      exact ih
    | some cut =>
      rw [ha, Option.map_some, eq_comm, Option.map_eq_some_iff] at hab
      obtain ⟨cut', hb, hrest⟩ := hab
      rw [hb, Option.map_some, Option.map_some, hrest]

/-- **A report renders the same however its paths are spelled.** The path and the bases may have
other separators, and for a path with none at its end any base may have one more at its own. -/
theorem reportPath_respelled (hpath : Respelled path path')
    (hbases : List.Forall₂ (SameBase path) bases bases') :
    reportPath path bases = reportPath path' bases' := by
  have hforward : forward path = forward path' := forward_eq_iff.2 hpath
  have hempty : path = "" ↔ path' = "" := by
    rw [← forward_eq_empty_iff, hforward, forward_eq_empty_iff]
  have hrelative : relative (forward path) bases = relative (forward path) bases' :=
    relative_congr (hbases.imp fun a b h => h.rest_cutAfter?)
  simp only [reportPath, shownPath, hempty, ← hforward, hrelative]

/-- A share in mixed spelling. The bases are the path itself, one that ends inside a component, and
one above it, which is spelled otherwise and ends at a separator on the other side. -/
theorem reportPath_share :
    let path := "\\\\host/work\\a.c"
    let path' := "//host\\work/a.c"
    let bases := ["//host/work/a.c", "\\/host/wo", "//host/work"]
    let bases' := ["\\\\host\\work\\a.c\\", "\\/host/wo", "\\\\host\\work\\"]
    Respelled path path' ∧ List.Forall₂ (SameBase path) bases bases' ∧
      reportPath path bases = reportPath path' bases' ∧ reportPath path bases = "./a.c" := by
  intro path path' bases bases'
  have hpath : Respelled path path' := by decide +kernel
  have hend : ¬ EndsAtSeparator path := by decide +kernel
  have hbases : List.Forall₂ (SameBase path) bases bases' :=
    .cons (.ended hend (by decide) (by decide +kernel) (by decide +kernel))
      (.cons (.respelled (by decide +kernel))
        (.cons (.ended hend (by decide) (by decide +kernel) (by decide +kernel)) .nil))
  exact ⟨hpath, hbases, reportPath_respelled hpath hbases, by decide +kernel⟩

end InspectionFeed.Path
