/-
The form of paths that are made absolute: one separator at the start, or two,
and then plain components with a separator between each two. Folding leaves
such a path as it is, and a folded path stands for the path that it came from
wherever another one is joined to it (`fold_join_fold`). So a path can be made
absolute at once or in steps (`absoluteFrom_in_steps`).
-/
import InspectionFeed.Path.Name
import InspectionFeed.Proofs.Path.Folding
import InspectionFeed.Proofs.Path.Separators

namespace InspectionFeed.Path

/-- How many separators stand at the start of a path. -/
def leadingSlashes (path : List Char) : Nat := (path.takeWhile (· = '/')).length

/-- The separators that an absolute path keeps at its start: two if it has just two, else one. -/
def keptRoot (path : List Char) : List Char :=
  List.replicate (if leadingSlashes path = 2 then 2 else 1) '/'

/-- What stands behind the separators at the start: nothing, or plain components. -/
def IsPlainPath (rest : List Char) : Prop := rest = [] ∨ ∀ w ∈ components rest, IsPlain w

variable {base path rest cs : List Char} {ws above : List (List Char)} {rooted : Bool}

/-! ## The start of a path -/

theorem rootSlashes_eq (h : path.head? = some '/') :
    rootSlashes path = if leadingSlashes path = 2 then 2 else 1 := by
  obtain ⟨rest, rfl⟩ := List.head?_eq_some_iff.1 h
  unfold leadingSlashes
  rcases rest with _ | ⟨c, _ | ⟨d, rest⟩⟩
  · simp [rootSlashes]
  · by_cases hc : c = '/' <;> simp [rootSlashes, hc]
  · by_cases hc : c = '/' <;> by_cases hd : d = '/' <;> simp [rootSlashes, hc, hd]

theorem head?_joinComponents_ne (hws : ∀ w ∈ ws, IsPlain w) :
    (joinComponents ws).head? ≠ some '/' := by
  cases ws with
  | nil => nofun
  | cons w ws =>
    have hw := hws w List.mem_cons_self
    obtain ⟨c, w, rfl⟩ := List.exists_cons_of_ne_nil hw.ne_nil
    have hc : c ≠ '/' := fun h => hw.separator_notMem (by simp [h])
    cases ws <;> simpa [joinComponents] using hc

theorem rootSlashes_replicate_append {n : Nat} (hn : n = 1 ∨ n = 2) (hcs : cs.head? ≠ some '/') :
    rootSlashes (List.replicate n '/' ++ cs) = n := by
  rcases hn with rfl | rfl <;> rcases cs with _ | ⟨c, cs⟩ <;>
    simp_all [rootSlashes, List.replicate_succ]

theorem rootSlashes_cases (h : path.head? = some '/') :
    rootSlashes path = 1 ∨ rootSlashes path = 2 := by
  rw [rootSlashes_eq h]
  split <;> simp

/-! ## Folding what is folded -/

theorem foldl_components_slashes (n : Nat) (cs : List Char) :
    (components (List.replicate n '/' ++ cs)).foldl (foldComponent rooted) above =
      (components cs).foldl (foldComponent rooted) above := by
  induction n with
  | zero => rfl
  | succ n ih =>
    rw [List.replicate_succ, List.cons_append, components, if_pos rfl, List.foldl_cons,
      foldComponent_nil, ih]

theorem foldl_components_joinComponents (hws : ∀ w ∈ ws, IsPlain w) :
    (components (joinComponents ws)).foldl (foldComponent rooted) above = ws.reverse ++ above := by
  by_cases hne : ws = []
  · rw [hne]
    show foldComponent rooted above [] = above
    exact foldComponent_nil
  · rw [components_joinComponents (fun w hw => (hws w hw).separator_notMem) hne,
      foldl_foldComponent_of_plain hws]

/-- A folded path folds to the components that it was put together from. -/
theorem foldl_components_fold (h : path.head? = some '/') :
    (components (fold path)).foldl (foldComponent true) [] =
      (components path).foldl (foldComponent true) [] := by
  rw [fold_of_rooted h, foldl_components_slashes,
    foldl_components_joinComponents fun w hw => isPlain_of_mem_foldComponents hw, foldComponents,
    List.reverse_reverse, List.append_nil]

theorem rootSlashes_fold (h : path.head? = some '/') :
    rootSlashes (fold path) = rootSlashes path := by
  rw [fold_of_rooted h]
  exact rootSlashes_replicate_append (rootSlashes_cases h)
    (head?_joinComponents_ne fun w hw => isPlain_of_mem_foldComponents hw)

/-- Joining to a folded path gives the same as joining to the path itself: whatever climbs, climbs
through the same components. -/
theorem fold_join_fold (hb : base.head? = some '/') (path : List Char) :
    fold (join (fold base) path) = fold (join base path) := by
  by_cases hp : path.head? = some '/'
  · rw [join, join, if_pos hp, if_pos hp]
  have hf := head?_fold hb
  have hne : base ≠ [] := by rintro rfl; cases hb
  have hfne : fold base ≠ [] := by intro h; rw [h] at hf; cases hf
  rw [fold_of_rooted (head?_join hf), fold_of_rooted (head?_join hb), rootSlashes_join hf hp,
    rootSlashes_join hb hp, rootSlashes_fold hb, foldComponents_join hfne hp,
    foldComponents_join hne hp, foldl_components_fold hb]

/-- A path that folds to nothing leads nowhere else. -/
theorem fold_join_of_foldl_eq (hb : base.head? = some '/') (hp : path.head? ≠ some '/')
    (h : ∀ above, (components path).foldl (foldComponent true) above = above) :
    fold (join base path) = fold base := by
  have hne : base ≠ [] := by rintro rfl; cases hb
  rw [fold_of_rooted (head?_join hb), fold_of_rooted hb, rootSlashes_join hb hp,
    foldComponents_join hne hp, h]
  rfl

/-! ## The form of a folded path -/

theorem isPlainPath_joinComponents (hws : ∀ w ∈ ws, IsPlain w) :
    IsPlainPath (joinComponents ws) := by
  by_cases hne : ws = []
  · exact .inl (by rw [hne]; rfl)
  · refine .inr ?_
    rwa [components_joinComponents (fun w hw => (hws w hw).separator_notMem) hne]

theorem exists_fold_eq (h : path.head? = some '/') :
    ∃ rest, IsPlainPath rest ∧ fold path = keptRoot path ++ rest :=
  ⟨_, isPlainPath_joinComponents fun _ hw => isPlain_of_mem_foldComponents hw, by
    rw [fold_of_rooted h, rootSlashes_eq h]; rfl⟩

theorem getLast?_keptRoot (path : List Char) : (keptRoot path).getLast? = some '/' := by
  rw [keptRoot, List.getLast?_replicate, if_neg]
  split <;> decide

/-- A separator stands at the end only where it is the root. -/
theorem IsPlainPath.getLast?_append (h : IsPlainPath rest) (path : List Char) :
    (keptRoot path ++ rest).getLast? = some '/' ↔ rest = [] := by
  rw [List.getLast?_append, getLast?_keptRoot]
  rcases h with rfl | h
  · exact iff_of_true rfl rfl
  · have hne : rest ≠ [] := by rintro rfl; exact (h [] (by simp [components])).ne_nil rfl
    refine iff_of_false (fun hl => ?_) hne
    cases hlast : rest.getLast? with
    | none => exact hne (List.getLast?_eq_none_iff.1 hlast)
    | some c =>
      rw [hlast] at hl
      cases hl
      obtain ⟨front, rfl⟩ := List.getLast?_eq_some_iff.1 hlast
      have hmem : [] ∈ components (front ++ ['/']) := by rw [components_append]; simp [components]
      exact (h [] hmem).ne_nil rfl

/-! ## Paths of the host -/

theorem filter_components_slashes (n : Nat) (cs : List Char) :
    ((components (List.replicate n '/' ++ cs)).filter fun c => c ≠ [] ∧ c ≠ ['.']) =
      (components cs).filter fun c => c ≠ [] ∧ c ≠ ['.'] := by
  induction n with
  | zero => rfl
  | succ n ih =>
    rw [List.replicate_succ, List.cons_append, components, if_pos rfl,
      List.filter_cons_of_neg (by simp), ih]

theorem IsPlainPath.joinComponents_filter (h : IsPlainPath rest) :
    joinComponents ((components rest).filter fun c => c ≠ [] ∧ c ≠ ['.']) = rest := by
  rcases h with rfl | h
  · rfl
  · have hall : ∀ w ∈ components rest, decide (w ≠ [] ∧ w ≠ ['.']) = true := fun w hw =>
      decide_eq_true ⟨(h w hw).ne_nil, (h w hw).ne_dot⟩
    rw [List.filter_eq_self.2 hall, joinComponents_components]

/-- A folded path is in normal form as a path of the host. -/
theorem text_ofString_fold (h : path.head? = some '/') :
    (HostPath.ofString (.ofList (fold path))).text = .ofList (fold path) := by
  have hplain : IsPlainPath (joinComponents (foldComponents true (components path))) :=
    isPlainPath_joinComponents fun w hw => isPlain_of_mem_foldComponents hw
  have htext : String.ofList (List.replicate (rootSlashes (fold path)) '/') ++
      "/".intercalate (HostPath.ofString (.ofList (fold path))).parts = .ofList (fold path) := by
    rw [← String.toList_inj, String.toList_append, String.toList_ofList, String.toList_ofList,
      rootSlashes_fold h, HostPath.ofString, String.toList_ofList, fold_of_rooted h,
      filter_components_slashes, String.toList_intercalate, List.map_map,
      show String.toList ∘ String.ofList = id from funext fun _ => String.toList_ofList,
      List.map_id, show "/".toList = ['/'] from rfl, ← joinComponents_eq_intercalate,
      hplain.joinComponents_filter]
  have hne : String.ofList (fold path) ≠ "" := by
    intro hempty
    have := head?_fold h
    rw [← String.toList_ofList (l := fold path), hempty] at this
    cases this
  unfold HostPath.text
  dsimp only
  rw [show (HostPath.ofString (.ofList (fold path))).root = rootSlashes (fold path) by
    rw [HostPath.ofString, String.toList_ofList], htext, if_neg hne]

/-! ## Absolute paths -/

variable {directory : String}

theorem toList_absoluteFrom (directory path : String) :
    (absoluteFrom directory path).toList = fold (join directory.toList path.toList) :=
  String.toList_ofList

theorem absoluteFrom_absoluteFrom (h : directory.toList.head? = some '/') (r s : String) :
    absoluteFrom (absoluteFrom directory r) s =
      absoluteFrom directory (.ofList (join r.toList s.toList)) := by
  rw [absoluteFrom, toList_absoluteFrom, fold_join_fold (head?_join h), ← join_assoc, absoluteFrom,
    String.toList_ofList]

theorem absoluteFrom_of_foldl_eq (h : directory.toList.head? = some '/') (r : String) {s : String}
    (hs : s.toList.head? ≠ some '/')
    (hfold : ∀ above, (components s.toList).foldl (foldComponent true) above = above) :
    absoluteFrom (absoluteFrom directory r) s = absoluteFrom directory r := by
  rw [absoluteFrom, toList_absoluteFrom, fold_join_fold (head?_join h),
    fold_join_of_foldl_eq (head?_join h) hs hfold]
  rfl

/-- **Making a path absolute gives one canonical form, at once or in steps.** The result starts
with one separator, or with two if the joined path starts with just two, and holds plain components
behind it with one separator between each two, so a separator stands at its end only where it is
the root. A path made absolute below the result is the two paths joined and made absolute at once,
and with nothing or a dot to join the result stays as it is. -/
theorem absoluteFrom_in_steps (h : directory.toList.head? = some '/') (r : String) :
    let result := absoluteFrom directory r
    isAbsolute result = true ∧
      (∃ rest, IsPlainPath rest ∧
        result.toList = keptRoot (join directory.toList r.toList) ++ rest ∧
        (result.toList.getLast? = some '/' ↔ rest = [])) ∧
      (HostPath.ofString result).text = result ∧
      (∀ s, absoluteFrom result s = absoluteFrom directory (.ofList (join r.toList s.toList))) ∧
      absoluteFrom result "" = result ∧ absoluteFrom result "." = result := by
  intro result
  have hjoined : (join directory.toList r.toList).head? = some '/' := head?_join h
  have hresult : result.toList = fold (join directory.toList r.toList) := toList_absoluteFrom _ _
  obtain ⟨rest, hplain, hfold⟩ := exists_fold_eq hjoined
  refine ⟨isAbsolute_of_root (by rw [hresult]; exact head?_fold hjoined),
    ⟨rest, hplain, hresult.trans hfold, ?_⟩, text_ofString_fold hjoined,
    absoluteFrom_absoluteFrom h r, absoluteFrom_of_foldl_eq h r (by decide) fun above => ?_,
    absoluteFrom_of_foldl_eq h r (by decide) fun above => ?_⟩
  · rw [hresult, hfold, hplain.getLast?_append]
  · show foldComponent true above [] = above
    exact foldComponent_nil
  · show foldComponent true above ['.'] = above
    simp [foldComponent]

/-- A path with a root of two separators replaces the directory, and what is joined to it climbs
beyond that root. -/
theorem double_root_in_steps :
    "/w/x".toList.head? = some '/' ∧ absoluteFrom "/w/x" "//h/../a/" = "//a" ∧
      absoluteFrom "//a" ".././../b" = absoluteFrom "/w/x" "//h/../a/.././../b" ∧
      absoluteFrom "/w/x" "//h/../a/.././../b" = "//b" ∧ absoluteFrom "//a" "." = "//a" := by
  have hroot : "/w/x".toList.head? = some '/' := by decide +kernel
  have hresult : absoluteFrom "/w/x" "//h/../a/" = "//a" := by decide +kernel
  have hjoined : String.ofList (join "//h/../a/".toList ".././../b".toList) =
      "//h/../a/.././../b" := by decide +kernel
  obtain ⟨-, -, -, hsteps, -, hdot⟩ := absoluteFrom_in_steps hroot "//h/../a/"
  rw [hresult] at hsteps hdot
  exact ⟨hroot, hresult, by rw [hsteps, hjoined], by decide +kernel, hdot⟩

end InspectionFeed.Path
