/-
Files below an anchored base directory, and how a report shows them. However
the base is spelled, the path of such a file is the anchored base with the
rest behind it (`toList_below`), so the report cuts it off and shows the rest
(`reportPath_below`).

Every backslash of a path is read as a separator. A base whose own name ends
with one is therefore taken to end with a separator already, and the separator
behind it stays with the rest.
-/
import InspectionFeed.Proofs.Path.Folding
import InspectionFeed.Proofs.Path.Separators

namespace InspectionFeed.Path

variable {directory raw rest path : String} {before after : List String}

/-! ## Separators turned forward -/

/-- A backslash at the end of a base is turned into a separator, so the one that stands behind it
is left over. -/
theorem map_asDirectory (base : List Char) :
    (asDirectory base).map forwardChar = asDirectory (base.map forwardChar) ++
      if base.getLast? = some '\\' then ['/'] else [] := by
  unfold asDirectory
  rw [List.getLast?_map]
  cases base.getLast? with
  | none => simp [forwardChar]
  | some c =>
    by_cases hb : c = '\\'
    · simp [hb, forwardChar]
    · by_cases hs : c = '/' <;> simp [hb, hs, forwardChar]

/-! ## Files below a base -/

/-- The file of this path below a base directory that is not absolute. -/
def below (directory raw rest : String) : String :=
  absoluteFrom directory (.ofList (join (forward raw).toList rest.toList))

theorem toList_anchor (h : isAbsolute raw = false) :
    (anchor directory raw).toList = fold (join directory.toList (forward raw).toList) := by
  rw [anchor, isAbsolute_forward, h, if_neg Bool.false_ne_true, absoluteFrom, String.toList_ofList]

theorem head?_anchor (hd : directory.toList.head? = some '/') (hraw : isAbsolute raw = false) :
    (anchor directory raw).toList.head? = some '/' := by
  rw [toList_anchor hraw]
  exact head?_fold (head?_join hd)

/-- The path of a file below an anchored base is the base as a directory and the rest. -/
theorem toList_below (hd : directory.toList.head? = some '/') (hraw : isAbsolute raw = false)
    (hrest : ∀ w ∈ components rest.toList, IsPlain w) :
    (below directory raw rest).toList =
      asDirectory (anchor directory raw).toList ++ rest.toList := by
  rw [below, absoluteFrom, String.toList_ofList, String.toList_ofList, join_assoc,
    fold_join_of_plain (head?_join hd) hrest, toList_anchor hraw]

/-- The separator that is left over behind a base whose name ends with a backslash. -/
def leftOver (base : String) : List Char := if base.toList.getLast? = some '\\' then ['/'] else []

theorem cutAfter?_below (hd : directory.toList.head? = some '/') (hraw : isAbsolute raw = false)
    (hrest : ∀ w ∈ components rest.toList, IsPlain w) (hbackslash : '\\' ∉ rest.toList) :
    cutAfter? (forward (below directory raw rest)) (anchor directory raw) =
      some ⟨forward (anchor directory raw),
        .ofList (leftOver (anchor directory raw) ++ rest.toList)⟩ := by
  have hpath : (forward (below directory raw rest)).toList =
      asDirectory (forward (anchor directory raw)).toList ++
        (leftOver (anchor directory raw) ++ rest.toList) := by
    rw [toList_forward, toList_below hd hraw hrest, List.map_append, map_asDirectory,
      map_forwardChar_of_notMem hbackslash, toList_forward, leftOver, List.append_assoc]
  have hrest_ne : rest.toList ≠ [] := by
    intro h
    exact (hrest [] (by simp [h, components])).ne_nil rfl
  have hlonger : (forward (anchor directory raw)).toList.length <
      (forward (below directory raw rest)).toList.length := by
    obtain ⟨t, ht⟩ := asDirectory_eq_append (forward (anchor directory raw)).toList
    have := List.length_pos_iff.2 hrest_ne
    rw [hpath, ht]
    simp only [List.length_append]
    omega
  refine cutAfter?_eq_some_iff.2 ⟨?_, ?_, rfl, ?_⟩
  · intro hempty
    have habsolute := isAbsolute_of_root (head?_anchor hd hraw)
    rw [isAbsolute, hempty] at habsolute
    cases habsolute
  · intro heq
    rw [heq] at hlonger
    omega
  · rw [String.toList_ofList, ← components_asDirectory_append, hpath]

/-- **A file below an anchored base is shown by the rest of its path**, whatever bases stand
behind that base in the list and as long as none before it is a directory above the file. Behind
a base whose name ends with a backslash one more separator is shown. -/
theorem reportPath_below (hd : directory.toList.head? = some '/') (hraw : isAbsolute raw = false)
    (hrest : ∀ w ∈ components rest.toList, IsPlain w) (hbackslash : '\\' ∉ rest.toList)
    (hbefore : ∀ b ∈ before, ¬ IsAbove b (forward (below directory raw rest))) :
    ((anchor directory raw).toList.getLast? ≠ some '\\' →
      reportPath (below directory raw rest) (before ++ anchor directory raw :: after) =
        "./" ++ rest) ∧
    ((anchor directory raw).toList.getLast? = some '\\' →
      reportPath (below directory raw rest) (before ++ anchor directory raw :: after) =
        ".//" ++ rest) := by
  have hcut := cutAfter?_below hd hraw hrest hbackslash
  have hrelative := relative_of_first hbefore hcut after
  have habsolute : isAbsolute (forward (below directory raw rest)) = true := by
    obtain ⟨t, ht⟩ := asDirectory_eq_append (anchor directory raw).toList
    obtain ⟨cs, hcs⟩ := List.head?_eq_some_iff.1 (head?_anchor hd hraw)
    rw [isAbsolute_forward]
    refine isAbsolute_of_root ?_
    rw [toList_below hd hraw hrest, ht, hcs]
    rfl
  have hne : below directory raw rest ≠ "" := by
    intro h
    rw [h] at habsolute
    cases habsolute
  have hshown : reportPath (below directory raw rest) (before ++ anchor directory raw :: after) =
      "./" ++ .ofList (leftOver (anchor directory raw) ++ rest.toList) := by
    rw [reportPath, if_neg hne, shownPath, if_pos habsolute, hrelative]
  rw [hshown]
  refine ⟨fun hend => ?_, fun hend => ?_⟩
  · rw [leftOver, if_neg hend, List.nil_append, String.ofList_toList]
  · rw [leftOver, if_pos hend, String.ofList_append, String.ofList_toList]
    rfl

/-- A base that climbs to the root, behind bases that are not above the file: one is empty, one
ends inside a component of the file's path, and one is elsewhere. -/
theorem climbing_base_cut :
    let base := anchor "/w/x" "..\\../.."
    let bases := ["", "/a/b", "/w"] ++ base :: ["/a"]
    base = "/" ∧ below "/w/x" "..\\../.." "a/bc.c" = "/a/bc.c" ∧
      reportPath "/a/bc.c" bases = "./a/bc.c" := by
  intro base bases
  have hbase : base = "/" := by decide +kernel
  have hbelow : below "/w/x" "..\\../.." "a/bc.c" = "/a/bc.c" := by decide +kernel
  have hshown := @reportPath_below "/w/x" "..\\../.." "a/bc.c" ["", "/a/b", "/w"] ["/a"]
    (by decide +kernel) (by decide +kernel) (by decide +kernel) (by decide +kernel)
    (by decide +kernel)
  rw [hbelow] at hshown
  exact ⟨hbase, hbelow, hshown.1 (by rw [show anchor "/w/x" "..\\../.." = "/" from hbase]; decide)⟩

/-- A directory whose name ends with a backslash: the base is above the file, but the separator
between them is shown. -/
theorem backslash_base_leaves_separator :
    "/a\\".toList.head? = some '/' ∧ isAbsolute "" = false ∧
      (∀ w ∈ components "r".toList, IsPlain w) ∧ '\\' ∉ "r".toList ∧
      reportPath (below "/a\\" "" "r") [anchor "/a\\" ""] = ".//r" ∧
      reportPath (below "/a\\" "" "r") [anchor "/a\\" ""] ≠ "./r" := by
  decide +kernel

end InspectionFeed.Path
