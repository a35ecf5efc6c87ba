/-
What is left of a text without the white space at its ends: the only part of it
that has none there and nothing but white space around it (`trimChars_of_pads`).
-/
import InspectionFeed.Text.Blank
import Mathlib.Data.List.DropRight
import Mathlib.Data.List.Forall2

namespace InspectionFeed.Text

/-- The code points of white space. -/
def blankPoints : List Nat :=
  List.range' 9 5 ++ List.range' 28 5 ++ [0x85, 0xA0, 0x1680] ++ List.range' 0x2000 11 ++
    [0x2028, 0x2029, 0x202F, 0x205F, 0x3000]

/-- There is no white space at either end. -/
structure IsTrimmed (cs : List Char) : Prop where
  head : ∀ c ∈ cs.head?, isBlank c = false
  last : ∀ c ∈ cs.getLast?, isBlank c = false

/-- The text is `core` with nothing but white space around it. -/
def Pads (core cs : List Char) : Prop :=
  ∃ before after, (∀ c ∈ before, isBlank c = true) ∧ (∀ c ∈ after, isBlank c = true) ∧
    cs = before ++ core ++ after

variable {c : Char} {cs core : List Char}

theorem mem_blankPoints (h : isBlank c = true) : c.toNat ∈ blankPoints := by
  simp only [isBlank, Bool.or_eq_true, Bool.and_eq_true, decide_eq_true_eq, beq_iff_eq] at h
  simp only [blankPoints, List.mem_append, List.mem_range'_1, List.mem_cons, List.not_mem_nil,
    or_false]
  omega

theorem trimEndChars_eq_rdropWhile (cs : List Char) : trimEndChars cs = cs.rdropWhile isBlank := rfl

/-- Both ends are as they should be when one character is at each. -/
theorem isTrimmed_of_ends {first last : Char} {inner : List Char} (hfirst : isBlank first = false)
    (hlast : isBlank last = false) : IsTrimmed (first :: inner ++ [last]) := by
  refine ⟨fun c hc => ?_, fun c hc => ?_⟩
  · obtain rfl := Option.some.inj hc
    exact hfirst
  · rw [List.getLast?_concat] at hc
    obtain rfl := Option.some.inj hc
    exact hlast

theorem isTrimmed_of_forall (h : ∀ c ∈ cs, isBlank c = false) : IsTrimmed cs :=
  ⟨fun c hc => h c (List.mem_of_mem_head? hc), fun c hc => h c (List.mem_of_getLast? hc)⟩

theorem dropWhile_of_head (h : ∀ c ∈ cs.head?, isBlank c = false) : cs.dropWhile isBlank = cs := by
  cases cs with
  | nil => rfl
  | cons c cs => rw [List.dropWhile_cons_of_neg (by simp [h c rfl])]

theorem trimEndChars_of_last (h : ∀ c ∈ cs.getLast?, isBlank c = false) : trimEndChars cs = cs := by
  rw [trimEndChars_eq_rdropWhile, List.rdropWhile_eq_self_iff]
  intro hne
  rw [h _ (List.getLast?_eq_some_getLast hne)]
  exact Bool.false_ne_true

theorem trimEndChars_append_blank {after : List Char} (h : ∀ c ∈ after, isBlank c = true)
    (cs : List Char) : trimEndChars (cs ++ after) = trimEndChars cs := by
  rw [trimEndChars, trimEndChars, List.reverse_append,
    List.dropWhile_append_of_pos fun c hc => h c (List.mem_reverse.1 hc)]

theorem isTrimmed_trimChars (cs : List Char) : IsTrimmed (trimChars cs) := by
  refine ⟨fun c hc => ?_, fun c hc => ?_⟩
  · -- What is dropped at the end leaves the first character in place.
    have hprefix : trimChars cs <+: cs.dropWhile isBlank := List.rdropWhile_prefix _ _
    obtain ⟨rest, hrest⟩ := hprefix
    have hhead : (cs.dropWhile isBlank).head? = some c := by
      rw [← hrest, List.head?_append, hc]
      rfl
    simpa [hhead] using List.head?_dropWhile_not isBlank cs
  · have hne : trimChars cs ≠ [] := List.ne_nil_of_mem (List.mem_of_getLast? hc)
    have hlast : trimChars cs = (cs.dropWhile isBlank).rdropWhile isBlank := rfl
    rw [List.getLast?_eq_some_getLast hne] at hc
    obtain rfl := Option.some.inj hc
    exact Bool.eq_false_iff.2 (List.rdropWhile_last_not _ _ hne)

theorem pads_trimChars (cs : List Char) : Pads (trimChars cs) cs := by
  refine ⟨cs.takeWhile isBlank, (cs.dropWhile isBlank).rtakeWhile isBlank,
    fun c hc => List.mem_takeWhile_imp hc, fun c hc => List.mem_rtakeWhile_imp hc, ?_⟩
  rw [List.append_assoc, trimChars, trimEndChars_eq_rdropWhile, List.rdropWhile_append_rtakeWhile,
    List.takeWhile_append_dropWhile]

theorem trimChars_of_pads (hp : Pads core cs) (ht : IsTrimmed core) : trimChars cs = core := by
  obtain ⟨before, after, hbefore, hafter, rfl⟩ := hp
  rw [trimChars, List.append_assoc, List.dropWhile_append_of_pos hbefore]
  cases core with
  | nil =>
    rw [List.nil_append, List.dropWhile_eq_nil_iff.2 hafter]
    rfl
  | cons c core =>
    have hhead : (c :: core ++ after).dropWhile isBlank = c :: core ++ after :=
      dropWhile_of_head ht.head
    rw [hhead, trimEndChars_append_blank hafter, trimEndChars_of_last ht.last]

theorem Pads.refl (cs : List Char) : Pads cs cs :=
  ⟨[], [], nofun, nofun, (List.append_nil cs).symm⟩

theorem Pads.trans {inner : List Char} (h : Pads core cs) (h' : Pads inner core) :
    Pads inner cs := by
  obtain ⟨before, after, hbefore, hafter, rfl⟩ := h
  obtain ⟨before', after', hbefore', hafter', rfl⟩ := h'
  refine ⟨before ++ before', after' ++ after, ?_, ?_, by simp only [List.append_assoc]⟩
  · exact fun c hc => (List.mem_append.1 hc).elim (hbefore c) (hbefore' c)
  · exact fun c hc => (List.mem_append.1 hc).elim (hafter' c) (hafter c)

theorem IsTrimmed.trimChars_eq (h : IsTrimmed cs) : trimChars cs = cs :=
  trimChars_of_pads (Pads.refl cs) h

theorem forall₂_dropWhile {R : Char → Char → Prop} {p : Char → Bool} {ds : List Char}
    (hR : ∀ c d, R c d → p c = p d) (h : List.Forall₂ R cs ds) :
    List.Forall₂ R (cs.dropWhile p) (ds.dropWhile p) := by
  induction h with
  | nil => exact .nil
  | @cons c d cs ds hcd htail ih =>
    rw [List.dropWhile_cons, List.dropWhile_cons, hR c d hcd]
    split
    · exact ih
    · exact .cons hcd htail

/-- Texts that match character by character, white space for white space, match when trimmed. -/
theorem forall₂_trimChars {R : Char → Char → Prop} {ds : List Char}
    (hR : ∀ c d, R c d → isBlank c = isBlank d) (h : List.Forall₂ R cs ds) :
    List.Forall₂ R (trimChars cs) (trimChars ds) := by
  rw [trimChars, trimChars, trimEndChars, trimEndChars, List.forall₂_reverse_iff]
  exact forall₂_dropWhile hR (List.forall₂_reverse_iff.2 (forall₂_dropWhile hR h))

/-- White space around a text makes no difference to what trimming leaves. -/
theorem Pads.trimChars_eq (h : Pads core cs) : trimChars cs = trimChars core :=
  trimChars_of_pads (h.trans (pads_trimChars core)) (isTrimmed_trimChars core)

end InspectionFeed.Text
