/-
What a report shows for a path (`reportPath_eq_iff`). Paths that are not absolute
are shown whole, with separators forward. Of an absolute path the first base above
it is cut off, and bases are compared with it component by component, so one that
ends inside a component is never above (`not_isAbove_of_endsInside`) and might as
well not be in the list. No backslash is ever shown.

The relations here say which base is cut and what is left; that they leave just one
text for each path is part of the statement.
-/
import InspectionFeed.Proofs.Path.Components
import InspectionFeed.Proofs.Path.Separators

namespace InspectionFeed.Path

/-- What is left of a path: what stands behind the first base above it, or all of it where there
is no such base. -/
inductive IsRelative (path : String) : List String → String → Prop
  | below {before after : List String} {base rest : String}
    (hbefore : ∀ b ∈ before, ¬ IsAbove b path) (habove : IsAbove base path)
    (hrest : components path.toList =
      directoryComponents (forward base).toList ++ components rest.toList) :
    IsRelative path (before ++ base :: after) rest
  | outside {bases : List String} (h : ∀ b ∈ bases, ¬ IsAbove b path) : IsRelative path bases path

/-- What a report shows for a path. -/
inductive Shows (bases : List String) : String → String → Prop
  | internal : Shows bases "" internalFile
  | whole {path : String} (hne : path ≠ "") (h : isAbsolute (forward path) = false) :
    Shows bases path ("./" ++ forward path)
  | relative {path rest : String} (hne : path ≠ "") (h : isAbsolute (forward path) = true)
    (hrest : IsRelative (forward path) bases rest) : Shows bases path ("./" ++ rest)

/-- The base ends inside a component of the path: its last component is not empty, and the path
has one in that place that goes on behind it. -/
def EndsInside (base path : String) : Prop :=
  ∃ before last more after, last ≠ [] ∧ more ≠ [] ∧
    components (forward base).toList = before ++ [last] ∧
    components path.toList = before ++ (last ++ more) :: after

variable {path base rest text : String} {bases before after : List String}

/-! ## Directories -/

/-- A path ends at a separator just when its last component is empty. -/
theorem getLast?_components_iff {cs : List Char} (hne : cs ≠ []) :
    (components cs).getLast? = some [] ↔ cs.getLast? = some '/' := by
  obtain ⟨front, last, h⟩ : ∃ front last, components cs = front ++ [last] :=
    ⟨_, _, (List.dropLast_append_getLast (components_ne_nil cs)).symm⟩
  have hcs : cs = joinComponents (front ++ [last]) := by rw [← h, joinComponents_components]
  rw [h, List.getLast?_concat, Option.some_inj]
  by_cases hlast : last = []
  · -- An empty component at the end has a separator before it, for the path is not empty.
    subst hlast
    have hfront : front ≠ [] := by
      rintro rfl
      exact hne hcs
    rw [hcs, joinComponents_append hfront (by simp), joinComponents, List.getLast?_concat]
    simp
  · have hseparator : '/' ∉ last := separator_notMem_of_mem_components (by rw [h]; simp)
    rw [hcs, getLast?_joinComponents front hlast]
    exact iff_of_false hlast fun hend => hseparator (List.mem_of_getLast? hend)

/-- The components of a directory are those of its path, less one that is empty at the end. -/
theorem directoryComponents_eq {cs : List Char} (hne : cs ≠ []) :
    directoryComponents cs =
      if (components cs).getLast? = some [] then (components cs).dropLast else components cs := by
  simp only [directoryComponents, getLast?_components_iff hne]

theorem not_isAbove_of_endsInside (h : EndsInside base path) : ¬ IsAbove base path := by
  rintro ⟨hne, -, rest, -, hrest⟩
  obtain ⟨before, last, more, after, hlast, hmore, hbase, hpath⟩ := h
  have hdirectory : directoryComponents (forward base).toList = before ++ [last] := by
    rw [directoryComponents_eq (by simpa using hne), hbase, List.getLast?_concat, if_neg]
    simpa using hlast
  rw [hpath, hdirectory, List.append_assoc, List.singleton_append] at hrest
  have hsame : last ++ more = last := (List.cons.inj (List.append_cancel_left hrest)).1
  exact hmore (List.append_right_eq_self.1 hsame)

/-! ## Relative paths -/

theorem not_isAbove_iff : ¬ IsAbove base path ↔ cutAfter? path base = none := by
  refine ⟨cutAfter?_of_not_isAbove, fun hnone habove => ?_⟩
  obtain ⟨cut, hcut⟩ := isAbove_iff.1 habove
  rw [hnone] at hcut
  cases hcut

theorem isRelative_relative (path : String) (bases : List String) :
    IsRelative path bases (relative path bases) := by
  unfold relative
  cases h : firstCut? path bases with
  | none => exact .outside fun b hb => not_isAbove_iff.2 (List.findSome?_eq_none_iff.1 h b hb)
  | some cut =>
    obtain ⟨before, base, after, rfl, hcut, hbefore⟩ := List.findSome?_eq_some_iff.1 h
    exact .below (fun b hb => not_isAbove_iff.2 (hbefore b hb)) (isAbove_iff.2 ⟨cut, hcut⟩)
      (cutAfter?_eq_some_iff.1 hcut).2.2.2

theorem relative_of_isRelative (h : IsRelative path bases rest) : relative path bases = rest := by
  cases h with
  | @below before after base rest hbefore habove hrest =>
    obtain ⟨hne, hpath, -⟩ := habove
    have hcut : cutAfter? path base = some ⟨forward base, rest⟩ :=
      cutAfter?_eq_some_iff.2 ⟨hne, hpath, rfl, hrest⟩
    exact relative_of_first hbefore hcut after
  | outside h =>
    have hnone : firstCut? path bases = none :=
      List.findSome?_eq_none_iff.2 fun b hb => not_isAbove_iff.1 (h b hb)
    rw [relative, hnone]

/-- A base that is not above the path makes no difference. -/
theorem relative_erase (h : ¬ IsAbove base path) (before after : List String) :
    relative path (before ++ base :: after) = relative path (before ++ after) := by
  simp only [relative, firstCut?, List.findSome?_append, List.findSome?_cons, not_isAbove_iff.1 h]

theorem IsRelative.suffix (h : IsRelative path bases rest) : rest.toList <:+ path.toList := by
  cases h with
  | @below before after base rest hbefore habove hrest =>
    rw [← components_asDirectory_append, components_inj] at hrest
    exact ⟨_, hrest.symm⟩
  | outside h => exact List.suffix_rfl

/-! ## Report paths -/

theorem reportPath_of_ne_empty (h : path ≠ "") (bases : List String) :
    reportPath path bases = "./" ++ shownPath path bases := if_neg h

theorem reportPath_eq_internalFile_iff : reportPath path bases = internalFile ↔ path = "" := by
  refine ⟨fun h => ?_, fun h => by rw [h, reportPath, if_pos rfl]⟩
  by_contra hne
  rw [reportPath_of_ne_empty hne] at h
  have hhead := congrArg (fun s => s.toList.head?) h
  simp [internalFile] at hhead

theorem shows_reportPath (path : String) (bases : List String) :
    Shows bases path (reportPath path bases) := by
  by_cases hne : path = ""
  · subst hne
    exact .internal
  rw [reportPath_of_ne_empty hne, shownPath]
  split
  next h => exact .relative hne h (isRelative_relative _ _)
  next h => exact .whole hne (Bool.eq_false_iff.2 h)

theorem reportPath_of_shows (h : Shows bases path text) : reportPath path bases = text := by
  cases h with
  | internal => rfl
  | whole hne h => rw [reportPath_of_ne_empty hne, shownPath, h, if_neg Bool.false_ne_true]
  | relative hne h hrest =>
    rw [reportPath_of_ne_empty hne, shownPath, if_pos h, relative_of_isRelative hrest]

theorem backslash_notMem_of_shows (h : Shows bases path text) : '\\' ∉ text.toList := by
  cases h with
  | internal => decide
  | @whole path hne h =>
    simpa using backslash_notMem_forward path
  | @relative path rest hne h hrest =>
    have hforward := backslash_notMem_forward path
    have hnot : '\\' ∉ rest.toList := fun hmem => hforward (hrest.suffix.subset hmem)
    simpa using hnot

/-- **What a report shows for a path.** Only the empty path is shown as no file. Any other is shown
whole unless it is absolute; then the first base above it is cut off, if there is one. No backslash
is shown, and a base that ends inside a component of the path is not above it and makes no
difference. -/
theorem reportPath_eq_iff (path : String) (bases : List String) :
    (∀ text, reportPath path bases = text ↔ Shows bases path text) ∧
      (reportPath path bases = internalFile ↔ path = "") ∧
      '\\' ∉ (reportPath path bases).toList ∧
      ∀ base, EndsInside base (forward path) →
        ¬ IsAbove base (forward path) ∧ ∀ before after,
          reportPath path (before ++ base :: after) = reportPath path (before ++ after) := by
  have hshows := shows_reportPath path bases
  refine ⟨fun text => ⟨fun h => h ▸ hshows, reportPath_of_shows⟩, reportPath_eq_internalFile_iff,
    backslash_notMem_of_shows hshows, fun base hbase => ?_⟩
  have habove := not_isAbove_of_endsInside hbase
  refine ⟨habove, fun before after => ?_⟩
  simp only [reportPath, shownPath, relative_erase habove]

/-- The base that is cut off stands behind some that are not above the path: one is empty, one ends
inside a component, one is the path itself and one another root. Behind it stands a longer one. -/
theorem reportPath_behind_half_component :
    let path := "\\p\\src/a.c"
    let before := ["", "/p/sr", "/p/src/a.c", "//"]
    let bases := before ++ ["\\p/", "/p/src"]
    EndsInside "/p/sr" (forward path) ∧ ¬ IsAbove "/p/sr" (forward path) ∧
      Shows bases path "./src/a.c" ∧ reportPath path bases = "./src/a.c" := by
  intro path before bases
  have hinside : EndsInside "/p/sr" (forward path) :=
    ⟨[[], ['p']], ['s', 'r'], ['c'], [['a', '.', 'c']], by decide +kernel⟩
  have hshown : reportPath path bases = "./src/a.c" := by decide +kernel
  obtain ⟨hshows, -, -, hbases⟩ := reportPath_eq_iff path bases
  exact ⟨hinside, (hbases _ hinside).1, (hshows _).1 hshown, hshown⟩

end InspectionFeed.Path
