/-
Lower case is final: a text of characters that it gives is left as it is
(`lowerFrom_of_isFinal`), and it makes no white space of anything else
(`IsTrimmed.lowerFrom`). Both hold because no character that the tables lead to
is one that they lead from, or white space. That is a check of the tables, made
on sets of bits.

The place of a capital sigma in its word is all that a text adds to its
characters. So characters that play the same part in a word may stand for one
another, up to what they become (`map_lowerFrom_congr`).
-/
import InspectionFeed.Proofs.Text.Trim
import InspectionFeed.Text.Case
import Mathlib.Data.List.Forall2
import Mathlib.Data.Nat.Bitwise

namespace InspectionFeed.Text

variable {s : Shift} {n : Nat} {c d : Char} {cs ds : List Char} {inWord : Bool}

/-! ## Sets of code points as bits -/

/-- The number whose bits are the members of a list. -/
def bits (ns : List Nat) : Nat := ns.foldr (fun n b => 1 <<< n ||| b) 0

theorem testBit_bits (ns : List Nat) (m : Nat) : (bits ns).testBit m = decide (m ∈ ns) := by
  induction ns with
  | nil => exact Nat.zero_testBit m
  | cons n ns ih =>
    rw [bits, List.foldr_cons, Nat.testBit_or, ← bits, ih, Nat.one_shiftLeft, Nat.testBit_two_pow]
    by_cases h : m = n <;> simp [h, eq_comm]

/-- Lists whose bits have nothing in common have no common member. -/
theorem notMem_of_bits {ms ns : List Nat} (h : bits ms &&& bits ns = 0) (hn : n ∈ ns) :
    n ∉ ms := by
  intro hm
  have hbit : (bits ms &&& bits ns).testBit n = true := by
    rw [Nat.testBit_and, testBit_bits, testBit_bits, decide_eq_true hm, decide_eq_true hn]
    rfl
  rw [h, Nat.zero_testBit] at hbit
  cases hbit

/-! ## The tables -/

/-- The code points that a run covers. -/
def Shift.points (s : Shift) : List Nat :=
  List.range' s.first ((s.last - s.first) / s.stride + 1) s.stride

/-- Where a run moves a code point. -/
def Shift.image (s : Shift) (n : Nat) : Nat := n + s.up - s.down

/-- The code points that have a lower case of their own. -/
def lowerPoints : List Nat := lowerExpansions.map Prod.fst ++ lowerShifts.flatMap Shift.points

/-- The code points in those lower cases. -/
def lowerImages : List Nat :=
  lowerExpansions.flatMap Prod.snd ++ lowerShifts.flatMap fun s => s.points.map s.image

theorem lowerImages_final : bits lowerPoints &&& bits lowerImages = 0 := by decide +kernel

theorem lowerImages_inked : bits blankPoints &&& bits lowerImages = 0 := by decide +kernel

theorem isValidChar_of_mem_lowerImages : ∀ m ∈ lowerImages, m.isValidChar := by decide +kernel

theorem Shift.mem_points (h : s.covers n = true) : n ∈ s.points := by
  simp only [covers, Bool.and_eq_true, decide_eq_true_eq, beq_iff_eq] at h
  obtain ⟨⟨hfirst, hlast⟩, hstep⟩ := h
  obtain ⟨k, hk⟩ := Nat.dvd_of_mod_eq_zero hstep
  rw [points, List.mem_range']
  refine ⟨(n - s.first) / s.stride, Nat.lt_succ_of_le (Nat.div_le_div_right (by omega)), ?_⟩
  rw [Nat.mul_div_cancel' ⟨k, hk⟩]
  omega

theorem toNat_ofNat (h : n.isValidChar) : (Char.ofNat n).toNat = n := by
  rw [Char.ofNat, dif_pos h]
  rfl

/-! ## One character -/

/-- A character that lower case leaves as it is. -/
def IsFinal (c : Char) : Prop := lowerChar c = [c]

/-- The tables say nothing about a character, which stays, or they lead from it to its image. -/
def Tabled (c : Char) (image : List Char) : Prop :=
  image = [c] ∨ c.toNat ∈ lowerPoints ∧ image ≠ [] ∧ ∀ d ∈ image, d.toNat ∈ lowerImages

theorem tabled_mapCase (c : Char) : Tabled c (mapCase lowerExpansions lowerShifts c) := by
  unfold mapCase
  split
  next image hlookup =>
    obtain ⟨before, after, htable, -⟩ := List.lookup_eq_some_iff.1 hlookup
    have hentry : (c.toNat, image) ∈ lowerExpansions :=
      htable ▸ List.mem_append_right _ List.mem_cons_self
    refine .inr ⟨List.mem_append_left _ (List.mem_map_of_mem hentry), ?_, fun d hd => ?_⟩
    · rw [Ne, List.map_eq_nil_iff]
      exact (by decide : ∀ e ∈ lowerExpansions, e.2 ≠ []) _ hentry
    · obtain ⟨m, hm, rfl⟩ := List.mem_map.1 hd
      have himage : m ∈ lowerImages :=
        List.mem_append_left _ (List.mem_flatMap.2 ⟨_, hentry, hm⟩)
      rwa [toNat_ofNat (isValidChar_of_mem_lowerImages m himage)]
  next =>
    unfold shifted
    cases hfind : lowerShifts.find? (·.covers c.toNat) with
    | none => exact .inl (by rw [Char.ofNat_toNat])
    | some s =>
      have hs : s ∈ lowerShifts := List.mem_of_find?_eq_some hfind
      have hcovers : s.covers c.toNat = true := by simpa using List.find?_some hfind
      have hpoint : c.toNat ∈ s.points := Shift.mem_points hcovers
      have himage : s.image c.toNat ∈ lowerImages :=
        List.mem_append_right _ (List.mem_flatMap.2 ⟨s, hs, List.mem_map_of_mem hpoint⟩)
      refine .inr ⟨List.mem_append_right _ (List.mem_flatMap.2 ⟨s, hs, hpoint⟩),
        List.cons_ne_nil _ _, fun d hd => ?_⟩
      obtain rfl := List.mem_singleton.1 hd
      exact (toNat_ofNat (isValidChar_of_mem_lowerImages _ himage)).symm ▸ himage

/-- Only the capital letters of ASCII have a lower case there. -/
theorem toLower_cases (c : Char) :
    c.toLower = c ∨ ∃ i < 26, c = .ofNat (65 + i) ∧ c.toLower = .ofNat (97 + i) := by
  have hascii : ∀ n < 128, (Char.ofNat n).toLower = .ofNat n ∨
      ∃ i < 26, Char.ofNat n = .ofNat (65 + i) ∧ (Char.ofNat n).toLower = .ofNat (97 + i) := by
    decide +kernel
  by_cases h : c.toNat < 128
  · simpa only [Char.ofNat_toNat] using hascii c.toNat h
  · refine .inl (dif_neg ?_)
    rintro ⟨-, hle⟩
    exact h (Nat.lt_of_le_of_lt (UInt32.le_iff_toNat_le.1 hle) (by decide))

theorem tabled_lowerChar (c : Char) : Tabled c (lowerChar c) := by
  have hletters : ∀ i < 26, 65 + i ∈ lowerPoints ∧ 97 + i ∈ lowerImages := by decide +kernel
  unfold lowerChar
  split
  · rcases toLower_cases c with hself | ⟨i, hi, hc, hlower⟩
    · exact .inl (by rw [hself])
    · obtain ⟨hpoint, himage⟩ := hletters i hi
      have hvalid : ∀ k < 123, k.isValidChar := fun k hk => .inl (by omega)
      refine .inr ⟨?_, List.cons_ne_nil _ _, fun d hd => ?_⟩
      · rwa [hc, toNat_ofNat (hvalid _ (by omega))]
      · rw [List.mem_singleton.1 hd, hlower]
        rwa [toNat_ofNat (hvalid _ (by omega))]
  · exact tabled_mapCase c

theorem lowerChar_ne_nil (c : Char) : lowerChar c ≠ [] := by
  rcases tabled_lowerChar c with h | ⟨-, h, -⟩
  · rw [h]
    exact List.cons_ne_nil _ _
  · exact h

theorem isFinal_of_mem_lowerImages (h : c.toNat ∈ lowerImages) : IsFinal c := by
  rcases tabled_lowerChar c with hc | ⟨hc, -, -⟩
  · exact hc
  · exact absurd hc (notMem_of_bits lowerImages_final h)

theorem isFinal_of_mem_lowerChar (h : d ∈ lowerChar c) : IsFinal d := by
  rcases tabled_lowerChar c with hc | ⟨-, -, hc⟩
  · obtain rfl := List.mem_singleton.1 (hc ▸ h)
    exact hc
  · exact isFinal_of_mem_lowerImages (hc d h)

theorem isBlank_of_mem_lowerChar (hc : isBlank c = false) (h : d ∈ lowerChar c) :
    isBlank d = false := by
  rcases tabled_lowerChar c with hself | ⟨-, -, himages⟩
  · obtain rfl := List.mem_singleton.1 (hself ▸ h)
    exact hc
  · rw [Bool.eq_false_iff]
    exact fun hd => notMem_of_bits lowerImages_inked (himages d h) (mem_blankPoints hd)

/-! ## One character in its word -/

/-- What a character may become in a word: a capital sigma has a second form. -/
def Becomes (c : Char) (image : List Char) : Prop :=
  image = lowerChar c ∨ c = capitalSigma ∧ image = ['\u03c2']

variable {image : List Char}

theorem lowerChar_capitalSigma : lowerChar capitalSigma = ['\u03c3'] := by decide +kernel

theorem Becomes.ne_nil (h : Becomes c image) : image ≠ [] := by
  rcases h with rfl | ⟨-, rfl⟩
  · exact lowerChar_ne_nil c
  · exact List.cons_ne_nil _ _

theorem Becomes.isFinal (h : Becomes c image) (hd : d ∈ image) : IsFinal d := by
  rcases h with rfl | ⟨-, rfl⟩
  · exact isFinal_of_mem_lowerChar hd
  · obtain rfl := List.mem_singleton.1 hd
    show lowerChar _ = _
    decide +kernel

theorem Becomes.isBlank (h : Becomes c image) (hc : isBlank c = false) (hd : d ∈ image) :
    isBlank d = false := by
  rcases h with rfl | ⟨-, rfl⟩
  · exact isBlank_of_mem_lowerChar hc hd
  · obtain rfl := List.mem_singleton.1 hd
    rfl

theorem exists_lowerFrom_cons (inWord : Bool) (c : Char) (cs : List Char) :
    ∃ image inWord', Becomes c image ∧
      lowerFrom inWord (c :: cs) = image ++ lowerFrom inWord' cs := by
  refine ⟨_, _, ?_, rfl⟩
  split
  next hc =>
    subst hc
    split
    · exact .inr ⟨rfl, rfl⟩
    · exact .inl lowerChar_capitalSigma.symm
  · exact .inl rfl

/-! ## Texts -/

theorem isFinal_of_mem_lowerFrom (h : d ∈ lowerFrom inWord cs) : IsFinal d := by
  induction cs generalizing inWord with
  | nil => cases h
  | cons c cs ih =>
    obtain ⟨image, inWord', himage, heq⟩ := exists_lowerFrom_cons inWord c cs
    rw [heq, List.mem_append] at h
    exact h.elim himage.isFinal ih

theorem lowerFrom_of_isFinal (h : ∀ c ∈ cs, IsFinal c) (inWord : Bool) :
    lowerFrom inWord cs = cs := by
  induction cs generalizing inWord with
  | nil => rfl
  | cons c cs ih =>
    have hc : lowerChar c = [c] := h c List.mem_cons_self
    have hsigma : c ≠ capitalSigma := by
      rintro rfl
      rw [lowerChar_capitalSigma] at hc
      cases hc
    rw [lowerFrom, if_neg hsigma, hc, ih fun x hx => h x (List.mem_cons_of_mem _ hx)]
    rfl

theorem lowerFrom_ne_nil (h : cs ≠ []) : lowerFrom inWord cs ≠ [] := by
  cases cs with
  | nil => exact absurd rfl h
  | cons c cs =>
    obtain ⟨image, inWord', himage, heq⟩ := exists_lowerFrom_cons inWord c cs
    rw [heq]
    exact List.append_ne_nil_of_left_ne_nil himage.ne_nil _

theorem isBlank_getLast?_lowerFrom (h : ∀ c ∈ cs.getLast?, isBlank c = false) :
    ∀ d ∈ (lowerFrom inWord cs).getLast?, isBlank d = false := by
  induction cs generalizing inWord with
  | nil => exact nofun
  | cons c cs ih =>
    obtain ⟨image, inWord', himage, heq⟩ := exists_lowerFrom_cons inWord c cs
    rw [heq]
    intro d hd
    cases cs with
    | nil =>
      rw [lowerFrom, List.append_nil] at hd
      exact himage.isBlank (h c rfl) (List.mem_of_getLast? hd)
    | cons c' cs =>
      rw [List.getLast?_append_of_ne_nil _ (lowerFrom_ne_nil (List.cons_ne_nil _ _))] at hd
      exact ih (by simpa using h) d hd

theorem IsTrimmed.lowerFrom (h : IsTrimmed cs) (inWord : Bool) :
    IsTrimmed (Text.lowerFrom inWord cs) := by
  refine ⟨fun d hd => ?_, isBlank_getLast?_lowerFrom h.last⟩
  cases cs with
  | nil => cases hd
  | cons c cs =>
    obtain ⟨image, inWord', himage, heq⟩ := exists_lowerFrom_cons inWord c cs
    rw [heq, List.head?_append_of_ne_nil _ himage.ne_nil] at hd
    exact himage.isBlank (h.head c rfl) (List.mem_of_mem_head? hd)

/-! ## Characters that stand for one another -/

/-- The characters play the same part in a word, and become the same up to `f`. -/
structure Alike (f : Char → Char) (c d : Char) : Prop where
  ignorable : caseIgnorable.has c = caseIgnorable.has d
  cased : cased.has c = cased.has d
  sigma : c = capitalSigma ↔ d = capitalSigma
  lower : (lowerChar c).map f = (lowerChar d).map f

variable {f : Char → Char}

theorem Alike.refl (f : Char → Char) (c : Char) : Alike f c c := ⟨rfl, rfl, Iff.rfl, rfl⟩

theorem Alike.symm (h : Alike f c d) : Alike f d c :=
  ⟨h.ignorable.symm, h.cased.symm, h.sigma.symm, h.lower.symm⟩

theorem Alike.trans {e : Char} (h : Alike f c d) (h' : Alike f d e) : Alike f c e :=
  ⟨h.ignorable.trans h'.ignorable, h.cased.trans h'.cased, h.sigma.trans h'.sigma,
    h.lower.trans h'.lower⟩

theorem endsWord_congr (h : List.Forall₂ (Alike f) cs ds) : endsWord cs = endsWord ds := by
  induction h with
  | nil => rfl
  | @cons c d cs ds hcd _ ih =>
    unfold endsWord at ih ⊢
    by_cases hc : caseIgnorable.has c = true
    · rw [List.dropWhile_cons_of_pos hc, List.dropWhile_cons_of_pos (hcd.ignorable ▸ hc), ih]
    · rw [List.dropWhile_cons_of_neg hc, List.dropWhile_cons_of_neg (hcd.ignorable ▸ hc)]
      exact congrArg not hcd.cased

/-- Texts of characters that play the same part have the same lower case. -/
theorem map_lowerFrom_congr (h : List.Forall₂ (Alike f) cs ds) (inWord : Bool) :
    (lowerFrom inWord cs).map f = (lowerFrom inWord ds).map f := by
  induction h generalizing inWord with
  | nil => rfl
  | @cons c d cs ds hcd htail ih =>
    have hends : endsWord cs = endsWord ds := endsWord_congr htail
    rw [lowerFrom, lowerFrom, List.map_append, List.map_append, hcd.ignorable, hcd.cased, ih, hends]
    congr 1
    by_cases hc : c = capitalSigma
    · rw [if_pos hc, if_pos (hcd.sigma.1 hc)]
    · rw [if_neg hc, if_neg (mt hcd.sigma.2 hc), hcd.lower]

end InspectionFeed.Text
