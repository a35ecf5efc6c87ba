/-
Folding paths, component by component. Below a root only components that stand
for themselves are left (`isPlain_of_mem_foldComponents`), and joining another
path goes on where the folding of the first one ended (`foldComponents_join`),
so a path of plain components is put behind a folded one as it is
(`fold_join_of_plain`).
-/
import InspectionFeed.Path.Anchor
import InspectionFeed.Proofs.Path.Components

namespace InspectionFeed.Path

/-- A component that stands for itself: not empty, neither one dot nor two, and without a
separator. -/
structure IsPlain (w : List Char) : Prop where
  ne_nil : w ≠ []
  ne_dot : w ≠ ['.']
  ne_dots : w ≠ ['.', '.']
  separator_notMem : '/' ∉ w

instance (w : List Char) : Decidable (IsPlain w) :=
  decidable_of_iff (w ≠ [] ∧ w ≠ ['.'] ∧ w ≠ ['.', '.'] ∧ '/' ∉ w)
    ⟨fun ⟨hn, hd, hdd, hs⟩ => ⟨hn, hd, hdd, hs⟩, fun ⟨hn, hd, hdd, hs⟩ => ⟨hn, hd, hdd, hs⟩⟩

variable {rooted : Bool} {above ws : List (List Char)} {w base path : List Char}

/-! ## Components -/

theorem foldComponent_nil : foldComponent rooted above [] = above := by simp [foldComponent]

theorem foldComponent_of_plain (h : IsPlain w) : foldComponent rooted above w = w :: above := by
  simp only [foldComponent, h.ne_nil, h.ne_dot, h.ne_dots, or_self, if_false]

theorem foldl_foldComponent_of_plain (h : ∀ w ∈ ws, IsPlain w) :
    ws.foldl (foldComponent rooted) above = ws.reverse ++ above := by
  induction ws generalizing above with
  | nil => rfl
  | cons w ws ih =>
    rw [List.foldl_cons, foldComponent_of_plain (h w (by simp)),
      ih fun v hv => h v (List.mem_cons_of_mem _ hv)]
    simp

/-- Two dots take away the component before them or, at the root, nothing, so they are never
left. -/
theorem isPlain_of_mem_foldComponent (ha : ∀ v ∈ above, IsPlain v) (hw : '/' ∉ w) :
    ∀ v ∈ foldComponent true above w, IsPlain v := by
  unfold foldComponent
  by_cases hempty : w = [] ∨ w = ['.']
  · rw [if_pos hempty]
    exact ha
  rw [if_neg hempty]
  simp only [not_or] at hempty
  by_cases hdots : w = ['.', '.']
  · rw [if_pos hdots]
    cases above with
    | nil => simp
    | cons last rest =>
      simp only [(ha last (by simp)).ne_dots, if_false]
      exact fun v hv => ha v (List.mem_cons_of_mem _ hv)
  · rw [if_neg hdots]
    intro v hv
    rcases List.mem_cons.1 hv with rfl | hv
    · exact ⟨hempty.1, hempty.2, hdots, hw⟩
    · exact ha v hv

theorem isPlain_of_mem_foldl (hws : ∀ w ∈ ws, '/' ∉ w) (ha : ∀ v ∈ above, IsPlain v) :
    ∀ v ∈ ws.foldl (foldComponent true) above, IsPlain v := by
  induction ws generalizing above with
  | nil => exact ha
  | cons w ws ih =>
    exact ih (fun v hv => hws v (List.mem_cons_of_mem _ hv))
      (isPlain_of_mem_foldComponent ha (hws w (by simp)))

theorem isPlain_of_mem_foldComponents (h : w ∈ foldComponents true (components path)) :
    IsPlain w :=
  isPlain_of_mem_foldl (fun _ hv => separator_notMem_of_mem_components hv) (by simp) w
    (List.mem_reverse.1 h)

/-! ## Joined paths -/

theorem asDirectory_eq_append (base : List Char) : ∃ t, asDirectory base = base ++ t := by
  unfold asDirectory
  split
  · exact ⟨[], (List.append_nil _).symm⟩
  · exact ⟨['/'], rfl⟩

theorem asDirectory_append (a : List Char) {b : List Char} (hb : b ≠ []) :
    asDirectory (a ++ b) = a ++ asDirectory b := by
  have hlast : (a ++ b).getLast? = b.getLast? := by
    rw [List.getLast?_append]
    cases h : b.getLast? with
    | none => exact absurd (List.getLast?_eq_none_iff.1 h) hb
    | some c => rfl
  unfold asDirectory
  rw [hlast]
  split
  · rfl
  · exact List.append_assoc _ _ _

theorem join_nil (path : List Char) : join [] path = path := by
  unfold join
  split
  · rfl
  · simp

/-- A path that starts at no root is put into the directory. -/
theorem join_of_relative (hb : base ≠ []) (hp : path.head? ≠ some '/') :
    join base path = asDirectory base ++ path := by
  unfold join asDirectory
  rw [if_neg hp]
  by_cases hl : base.getLast? = some '/'
  · simp [hl]
  · simp [hb, hl]

theorem head?_join (hb : base.head? = some '/') : (join base path).head? = some '/' := by
  by_cases hp : path.head? = some '/'
  · rw [join, if_pos hp, hp]
  · obtain ⟨rest, rfl⟩ := List.head?_eq_some_iff.1 hb
    obtain ⟨t, ht⟩ := asDirectory_eq_append ('/' :: rest)
    rw [join_of_relative (by simp) hp, ht]
    rfl

/-- Joining a third path to the first two is the same as joining the last two first. -/
theorem join_assoc (a b c : List Char) : join a (join b c) = join (join a b) c := by
  by_cases hc : c.head? = some '/'
  · simp only [join, hc, if_true]
  by_cases ha : a = []
  · simp only [ha, join_nil]
  by_cases hb : b = []
  · have hne : asDirectory a ≠ [] := by
      obtain ⟨t, ht⟩ := asDirectory_eq_append a
      simp [ht, ha]
    have hself : asDirectory (asDirectory a) = asDirectory a := by
      unfold asDirectory
      by_cases hl : a.getLast? = some '/' <;> simp [hl]
    rw [hb, join_nil, join_of_relative ha hc, join_of_relative ha (by simp), List.append_nil,
      join_of_relative hne hc, hself]
  obtain ⟨t, ht⟩ := asDirectory_eq_append b
  have hhead : (asDirectory b ++ c).head? = b.head? := by
    obtain ⟨d, b, rfl⟩ := List.exists_cons_of_ne_nil hb
    simp [ht]
  rw [join_of_relative hb hc]
  by_cases hroot : b.head? = some '/'
  · have hab : join a b = b := if_pos hroot
    rw [hab, join_of_relative hb hc]
    exact if_pos (hhead.trans hroot)
  · have hab : join a b = asDirectory a ++ b := join_of_relative ha hroot
    rw [hab, join_of_relative (by simp [hb]) hc, asDirectory_append _ hb,
      join_of_relative ha (by rwa [hhead]), List.append_assoc]

theorem foldl_directoryComponents (base : List Char) :
    (directoryComponents base).foldl (foldComponent rooted) above =
      (components base).foldl (foldComponent rooted) above := by
  unfold directoryComponents
  split
  next hl =>
    -- The empty component behind the separator at the end folds to nothing.
    obtain ⟨front, rfl⟩ := List.getLast?_eq_some_iff.1 hl
    rw [components_append, show components [] = [[]] from rfl, List.dropLast_concat,
      List.foldl_append, List.foldl_cons, List.foldl_nil, foldComponent_nil]
  next => rfl

theorem foldComponents_join (hb : base ≠ []) (hp : path.head? ≠ some '/') :
    foldComponents rooted (components (join base path)) =
      ((components path).foldl (foldComponent rooted)
        ((components base).foldl (foldComponent rooted) [])).reverse := by
  rw [foldComponents, join_of_relative hb hp, components_asDirectory_append, List.foldl_append,
    foldl_directoryComponents]

/-! ## Rooted paths -/

theorem rootSlashes_ne_zero (h : path.head? = some '/') : rootSlashes path ≠ 0 := by
  obtain ⟨rest, rfl⟩ := List.head?_eq_some_iff.1 h
  unfold rootSlashes
  split <;> simp_all

/-- The separators that a rooted path keeps are those of its base: no other comes to them. -/
theorem rootSlashes_join (hb : base.head? = some '/') (hp : path.head? ≠ some '/') :
    rootSlashes (join base path) = rootSlashes base := by
  obtain ⟨rest, rfl⟩ := List.head?_eq_some_iff.1 hb
  rw [join_of_relative (by simp) hp]
  rcases rest with _ | ⟨c, _ | ⟨d, rest⟩⟩
  · cases path <;> simp_all [asDirectory, rootSlashes]
  · cases path <;> by_cases hc : c = '/' <;> simp_all [asDirectory, rootSlashes]
  · obtain ⟨t, ht⟩ := asDirectory_eq_append ('/' :: c :: d :: rest)
    rw [ht]
    by_cases hc : c = '/' <;> by_cases hd : d = '/' <;> simp [rootSlashes, hc, hd]

theorem fold_of_rooted (h : path.head? = some '/') :
    fold path = List.replicate (rootSlashes path) '/' ++
      joinComponents (foldComponents true (components path)) := by
  have hroot := rootSlashes_ne_zero h
  simp [fold, hroot]

theorem head?_fold (h : path.head? = some '/') : (fold path).head? = some '/' := by
  obtain ⟨n, hn⟩ := Nat.exists_eq_succ_of_ne_zero (rootSlashes_ne_zero h)
  rw [fold_of_rooted h, hn, List.replicate_succ]
  rfl

theorem asDirectory_replicate {n : Nat} (hn : n ≠ 0) :
    asDirectory (List.replicate n '/') = List.replicate n '/' := by
  rw [asDirectory, List.getLast?_replicate, if_neg hn, if_pos rfl]

theorem asDirectory_joinComponents (root : List Char) (hne : ws ≠ []) (hws : ∀ w ∈ ws, IsPlain w) :
    asDirectory (root ++ joinComponents ws) = root ++ joinComponents ws ++ ['/'] := by
  obtain ⟨front, w, rfl⟩ := List.eq_nil_or_concat ws |>.resolve_left hne
  rw [List.concat_eq_append] at hws ⊢
  have hw := hws w (by simp)
  have hlast := getLast?_joinComponents front hw.ne_nil
  have hjoined : joinComponents (front ++ [w]) ≠ [] := by
    intro h
    rw [h, eq_comm, List.getLast?_nil, List.getLast?_eq_none_iff] at hlast
    exact hw.ne_nil hlast
  rw [asDirectory_append _ hjoined, asDirectory, hlast, if_neg, List.append_assoc]
  exact fun h => hw.separator_notMem (List.mem_of_getLast? h)

/-- Plain components come behind the folded base as they are, with a separator between unless the
base is a root. -/
theorem fold_join_of_plain (hb : base.head? = some '/') (hp : ∀ w ∈ components path, IsPlain w) :
    fold (join base path) = asDirectory (fold base) ++ path := by
  have hne : base ≠ [] := by rintro rfl; cases hb
  have hrelative : path.head? ≠ some '/' := by
    intro hroot
    obtain ⟨rest, rfl⟩ := List.head?_eq_some_iff.1 hroot
    exact (hp [] (by simp [components])).ne_nil rfl
  have hcomponents : foldComponents true (components (join base path)) =
      foldComponents true (components base) ++ components path := by
    rw [foldComponents_join hne hrelative, foldl_foldComponent_of_plain hp]
    simp [foldComponents]
  rw [fold_of_rooted (head?_join hb), fold_of_rooted hb, rootSlashes_join hb hrelative, hcomponents]
  by_cases hfolded : foldComponents true (components base) = []
  · rw [hfolded, List.nil_append, joinComponents_components, joinComponents, List.append_nil,
      asDirectory_replicate (rootSlashes_ne_zero hb)]
  · rw [joinComponents_append hfolded (components_ne_nil path), joinComponents_components,
      asDirectory_joinComponents _ hfolded fun w hw => isPlain_of_mem_foldComponents hw]
    simp

end InspectionFeed.Path
