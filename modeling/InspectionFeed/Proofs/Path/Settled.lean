/-
Base directories as they are kept: absolute on some platform, and with separators
forward. These are just the paths that anchoring leaves as they are, wherever they
are anchored (`isSettled_iff`), and below a directory without a backslash anchoring
gives no others (`isSettled_anchor`): a path is either kept with its separators
turned, or joined to the directory and folded, and folding brings no character into
a path that was not there.
-/
import InspectionFeed.Proofs.Path.Anchored

namespace InspectionFeed.Path

/-- An absolute directory of the host, without a backslash in its path. -/
structure IsForwardDirectory (directory : String) : Prop where
  rooted : directory.toList.head? = some '/'
  backslash_notMem : '\\' ∉ directory.toList

/-- A base directory as it is kept: absolute on some platform, and without a backslash. -/
structure IsSettled (path : String) : Prop where
  isAbsolute : isAbsolute path = true
  backslash_notMem : '\\' ∉ path.toList

instance (directory : String) : Decidable (IsForwardDirectory directory) :=
  decidable_of_iff (directory.toList.head? = some '/' ∧ '\\' ∉ directory.toList)
    ⟨fun ⟨hr, hb⟩ => ⟨hr, hb⟩, fun ⟨hr, hb⟩ => ⟨hr, hb⟩⟩

variable {rooted : Bool} {c : Char} {above ws : List (List Char)} {v w base path : List Char}
  {a directory raw : String}

/-! ## The characters of a folded path -/

theorem mem_joinComponents_iff (hc : c ≠ '/') :
    ∀ ws : List (List Char), c ∈ joinComponents ws ↔ ∃ w ∈ ws, c ∈ w
  | [] => by simp [joinComponents]
  | [w] => by simp [joinComponents]
  | w :: v :: ws => by
    have ih := mem_joinComponents_iff hc (v :: ws)
    rw [joinComponents, List.mem_append, List.mem_cons, ih, List.exists_mem_cons_iff]
    · simp [hc]
    · simp

theorem notMem_of_mem_components (hc : c ≠ '/') (hcs : c ∉ path) (hw : w ∈ components path) :
    c ∉ w := by
  intro hmem
  apply hcs
  rw [← joinComponents_components path, mem_joinComponents_iff hc]
  exact ⟨w, hw, hmem⟩

theorem mem_of_mem_foldComponent (h : v ∈ foldComponent rooted above w) : v ∈ above ∨ v = w := by
  unfold foldComponent at h
  grind

theorem mem_of_mem_foldl (h : v ∈ ws.foldl (foldComponent rooted) above) : v ∈ above ∨ v ∈ ws := by
  induction ws generalizing above with
  | nil => exact .inl h
  | cons w ws ih =>
    rcases ih h with hstep | hws
    · rcases mem_of_mem_foldComponent hstep with habove | rfl
      · exact .inl habove
      · exact .inr List.mem_cons_self
    · exact .inr (List.mem_cons_of_mem _ hws)

/-- Folding drops components and brings none. -/
theorem mem_of_mem_foldComponents (h : w ∈ foldComponents rooted ws) : w ∈ ws := by
  have hmem := mem_of_mem_foldl (List.mem_reverse.1 h)
  simpa using hmem

theorem notMem_fold (hroot : path.head? = some '/') (hc : c ≠ '/') (hcs : c ∉ path) :
    c ∉ fold path := by
  rw [fold_of_rooted hroot, List.mem_append, mem_joinComponents_iff hc]
  rintro (hmem | ⟨w, hw, hmem⟩)
  · exact hc (List.eq_of_mem_replicate hmem)
  · exact notMem_of_mem_components hc hcs (mem_of_mem_foldComponents hw) hmem

theorem notMem_join (hc : c ≠ '/') (hb : c ∉ base) (hp : c ∉ path) : c ∉ join base path := by
  unfold join
  split
  · exact hp
  · split
    · simp [hb, hp]
    · simp [hb, hp, hc]

/-! ## Anchored paths -/

theorem forward_of_backslash_notMem (h : '\\' ∉ a.toList) : forward a = a := by
  rw [← String.toList_inj, toList_forward, map_forwardChar_of_notMem h]

theorem anchor_of_isAbsolute (h : isAbsolute raw = true) (directory : String) :
    anchor directory raw = forward raw := by
  rw [anchor, isAbsolute_forward, if_pos h]

theorem isSettled_forward (h : isAbsolute raw = true) : IsSettled (forward raw) :=
  ⟨by rw [isAbsolute_forward, h], backslash_notMem_forward raw⟩

/-- Below a directory without a backslash every path is settled by anchoring. -/
theorem isSettled_anchor (hd : IsForwardDirectory directory) (raw : String) :
    IsSettled (anchor directory raw) := by
  cases habsolute : isAbsolute raw with
  | true =>
    rw [anchor_of_isAbsolute habsolute]
    exact isSettled_forward habsolute
  | false =>
    have hbackslash : '\\' ∉ join directory.toList (forward raw).toList :=
      notMem_join (by decide) hd.backslash_notMem (backslash_notMem_forward raw)
    refine ⟨isAbsolute_of_root (head?_anchor hd.rooted habsolute), ?_⟩
    rw [toList_anchor habsolute]
    exact notMem_fold (head?_join hd.rooted) (by decide) hbackslash

/-- A settled path stays as it is, whatever it is anchored to. -/
theorem IsSettled.anchor_eq (h : IsSettled a) (directory : String) : anchor directory a = a := by
  rw [anchor_of_isAbsolute h.isAbsolute, forward_of_backslash_notMem h.backslash_notMem]

/-- The settled paths are those that no directory changes. -/
theorem isSettled_iff : IsSettled a ↔ ∀ directory, anchor directory a = a := by
  constructor
  · exact IsSettled.anchor_eq
  · intro h
    rw [← h "/"]
    exact isSettled_anchor (by decide +kernel) a

end InspectionFeed.Path
