/-
Numerals: digits of one script or several that write a number in the decimal
system (`Writes`). A text of digits is read as the number it writes, and it is
not read just when it is too long or a digit in it is not decimal
(`readNumeral_cases`). A number as it is printed is plain: digits of ASCII, and
no zero in front of others (`isPlain_toString`); it is printed if it is short
enough (`printed?_eq_some_iff`, `fitsNumeral_iff`).
-/
import InspectionFeed.Proofs.Text.Trim
import InspectionFeed.Text.Digit
import Mathlib.Data.List.Basic
import Mathlib.Data.List.TakeWhile
import Mathlib.Data.Nat.Digits.Defs

namespace InspectionFeed.Text

/-- The text is decimal digits that write the number, the highest first. Zeros in front do not
count. -/
def Writes (text : String) (n : Nat) : Prop :=
  ∃ ds : List Nat, ds ≠ [] ∧ text.toList.map decimalValue? = ds.map some ∧
    Nat.ofDigits 10 ds.reverse = n

/-- The text is digits, but too many of them for a number, or one of them is not decimal. -/
def Unreadable (text : String) : Prop :=
  isDigits text = true ∧
    (numeralLimit < text.length ∨ ∃ c ∈ text.toList, decimalValue? c = none)

instance (text : String) : Decidable (Unreadable text) :=
  have : Decidable (∃ c ∈ text.toList, decimalValue? c = none) := List.decidableBEx _ _
  inferInstanceAs (Decidable (_ ∧ _))

/-- The text is the number in ASCII, without a zero in front of other digits. -/
structure IsPlain (text : String) (n : Nat) : Prop where
  digits : ∀ c ∈ text.toList, c.isDigit = true
  noZero : text.toList.head? = some '0' → text = "0"
  writes : Writes text n

variable {text : String} {m n : Nat} {cs : List Char} {ds : List Nat} {c : Char}

/-! ## Digits -/

theorem ne_point_of_isDigit (h : isDigit c = true) : c ≠ '.' := by
  rintro rfl
  exact absurd h (by decide)

theorem isBlank_of_isDigit (h : isDigit c = true) : isBlank c = false := by
  have hblank : ∀ n ∈ blankPoints, isDigit (.ofNat n) = false := by decide +kernel
  rw [Bool.eq_false_iff]
  intro hc
  have := hblank _ (mem_blankPoints hc)
  rw [Char.ofNat_toNat, h] at this
  cases this

theorem isDigit_of_isDigits (h : isDigits text = true) (hc : c ∈ text.toList) :
    isDigit c = true := by
  rw [isDigits, Bool.and_eq_true, List.all_eq_true] at h
  exact h.2 c hc

/-! ## The number of a numeral -/

theorem ofDigitValues_eq (ds : List Nat) : ofDigitValues ds = Nat.ofDigits 10 ds.reverse := by
  rw [Nat.ofDigits_eq_foldr, List.foldr_reverse, ofDigitValues]
  congr 1
  funext n d
  simp [Nat.add_comm]

theorem filterMap_decimalValue? (h : cs.map decimalValue? = ds.map some) :
    cs.filterMap decimalValue? = ds := by
  have hid := congrArg (List.filterMap id) h
  simpa [List.filterMap_map] using hid

theorem exists_map_some {values : List (Option Nat)} (h : ∀ v ∈ values, v.isSome = true) :
    ∃ ds : List Nat, values = ds.map some := by
  induction values with
  | nil => exact ⟨[], rfl⟩
  | cons v values ih =>
    obtain ⟨d, rfl⟩ := Option.isSome_iff_exists.1 (h v List.mem_cons_self)
    obtain ⟨ds, rfl⟩ := ih fun v hv => h v (List.mem_cons_of_mem _ hv)
    exact ⟨d :: ds, rfl⟩

theorem Writes.isSome_of_mem (h : Writes text n) (hc : c ∈ text.toList) :
    (decimalValue? c).isSome = true := by
  obtain ⟨ds, -, hmap, -⟩ := h
  have hmem : decimalValue? c ∈ ds.map some := hmap ▸ List.mem_map_of_mem hc
  obtain ⟨d, -, hd⟩ := List.mem_map.1 hmem
  rw [← hd, Option.isSome_some]

theorem Writes.ne_empty (h : Writes text n) : text ≠ "" := by
  rintro rfl
  obtain ⟨ds, hne, hmap, -⟩ := h
  exact hne (List.map_eq_nil_iff.1 hmap.symm)

/-- A text writes one number at most. -/
theorem Writes.eq (h : Writes text m) (h' : Writes text n) : m = n := by
  obtain ⟨ds, -, hmap, rfl⟩ := h
  obtain ⟨ds', -, hmap', rfl⟩ := h'
  rw [← filterMap_decimalValue? hmap, filterMap_decimalValue? hmap']

theorem Writes.isDigits (h : Writes text n) : isDigits text = true := by
  simp only [Text.isDigits, isDigit, Bool.and_eq_true, Bool.not_eq_true', List.all_eq_true,
    Bool.or_eq_true]
  exact ⟨by simpa using h.ne_empty, fun c hc => .inl (h.isSome_of_mem hc)⟩

theorem exists_writes (hne : text ≠ "") (h : ∀ c ∈ text.toList, (decimalValue? c).isSome = true) :
    ∃ n, Writes text n := by
  have hvalues : ∀ v ∈ text.toList.map decimalValue?, v.isSome = true := by simpa using h
  obtain ⟨ds, hds⟩ := exists_map_some hvalues
  refine ⟨_, ds, ?_, hds, rfl⟩
  rintro rfl
  exact hne (by simpa using hds)

/-! ## Reading -/

theorem readNumeral_of_writes (h : Writes text n) (hl : text.length ≤ numeralLimit) :
    readNumeral text = .ok n := by
  have hall : text.toList.takeWhile (fun c => (decimalValue? c).isSome) = text.toList :=
    List.takeWhile_eq_self_iff.2 fun _ hc => h.isSome_of_mem hc
  obtain ⟨ds, -, hmap, rfl⟩ := h
  rw [← String.length_toList] at hl
  simp only [readNumeral, hall, Nat.not_lt.2 hl, Nat.lt_irrefl, if_false,
    filterMap_decimalValue? hmap, ofDigitValues_eq]

theorem readNumeral_of_unreadable (h : Unreadable text) :
    ∃ fault, readNumeral text = .error fault := by
  simp only [readNumeral]
  split
  · exact ⟨_, rfl⟩
  next hlimit =>
    rw [if_pos]
    · exact ⟨_, rfl⟩
    · refine Nat.lt_of_le_of_ne (List.takeWhile_prefix _).length_le fun hall => ?_
      rcases h.2 with hlong | ⟨c, hc, hnone⟩
      · rw [hall, String.length_toList] at hlimit
        exact hlimit hlong
      · have hself := (List.takeWhile_prefix _).eq_of_length hall
        have := List.takeWhile_eq_self_iff.1 hself c hc
        rw [hnone] at this
        cases this

/-- A text of digits is read as the number it writes, or it is not readable. -/
theorem readNumeral_cases (h : isDigits text = true) :
    (∃ n, Writes text n ∧ text.length ≤ numeralLimit ∧ readNumeral text = .ok n) ∨
      Unreadable text ∧ ∃ fault, readNumeral text = .error fault := by
  by_cases hu : Unreadable text
  · exact .inr ⟨hu, readNumeral_of_unreadable hu⟩
  · obtain ⟨hl, hdecimal⟩ := not_or.1 fun h' => hu ⟨h, h'⟩
    have hne : text ≠ "" := by
      rintro rfl
      cases h
    obtain ⟨n, hn⟩ := exists_writes hne fun c hc =>
      Option.isSome_iff_ne_none.2 fun hnone => hdecimal ⟨c, hc, hnone⟩
    exact .inl ⟨n, hn, Nat.not_lt.1 hl, readNumeral_of_writes hn (Nat.not_lt.1 hl)⟩

theorem Writes.not_unreadable (h : Writes text n) (hl : text.length ≤ numeralLimit) :
    ¬ Unreadable text := by
  rintro ⟨-, hlong | ⟨c, hc, hnone⟩⟩
  · exact Nat.not_lt.2 hl hlong
  · have := h.isSome_of_mem hc
    rw [hnone] at this
    cases this

/-! ## Printing -/

theorem toList_toString (n : Nat) : (toString n).toList = Nat.toDigits 10 n := by
  rw [Nat.toString_eq_ofList_toDigits, String.toList_ofList]

theorem decimalValue?_digitChar : ∀ d < 10, decimalValue? d.digitChar = some d := by decide

theorem writes_toString (n : Nat) : Writes (toString n) n := by
  unfold Writes
  rw [toList_toString]
  induction n using Nat.strongRecOn with
  | ind n ih =>
    by_cases h : n < 10
    · refine ⟨[n], List.cons_ne_nil _ _, ?_, by simp⟩
      rw [Nat.toDigits_of_lt_base h, List.map_singleton, decimalValue?_digitChar n h,
        List.map_singleton]
    · obtain ⟨ds, -, hmap, hvalue⟩ := ih (n / 10) (by omega)
      refine ⟨ds ++ [n % 10], List.append_ne_nil_of_right_ne_nil _ (List.cons_ne_nil _ _), ?_, ?_⟩
      · rw [Nat.toDigits_of_base_le (by decide) (by omega), List.map_append, hmap,
          List.map_singleton, decimalValue?_digitChar _ (Nat.mod_lt n (by decide)),
          List.map_append, List.map_singleton]
      · rw [List.reverse_append, List.reverse_singleton, List.singleton_append, Nat.ofDigits_cons,
          hvalue]
        exact Nat.mod_add_div n 10

/-- Only zero is printed with a zero in front. -/
theorem eq_zero_of_head?_toDigits (h : (Nat.toDigits 10 n).head? = some '0') : n = 0 := by
  induction n using Nat.strongRecOn with
  | ind n ih =>
    by_cases hn : n < 10
    · have hdigits : ∀ d < 10, d.digitChar = '0' → d = 0 := by decide
      rw [Nat.toDigits_of_lt_base hn] at h
      exact hdigits n hn (by simpa using h)
    · rw [Nat.toDigits_of_base_le (by decide) (by omega),
        List.head?_append_of_ne_nil _ Nat.toDigits_ne_nil] at h
      have := ih (n / 10) (by omega) h
      omega

/-- A number is printed plainly. -/
theorem isPlain_toString (n : Nat) : IsPlain (toString n) n := by
  refine ⟨fun c hc => ?_, fun h => ?_, writes_toString n⟩
  · rw [toList_toString] at hc
    exact Nat.isDigit_of_mem_toDigits (by decide) (by decide) hc
  · rw [toList_toString] at h
    rw [eq_zero_of_head?_toDigits h]
    rfl

theorem fitsNumeral_iff {i : Int} : fitsNumeral i = true ↔ i.natAbs < 10 ^ numeralLimit := by
  rw [fitsNumeral, decide_eq_true_eq]
  exact Nat.length_repr_le_iff (by decide)

theorem fitsNumeral_pow {e : Nat} (h : numeralLimit ≤ e) : fitsNumeral (10 ^ e) = false := by
  rw [Bool.eq_false_iff, ne_eq, fitsNumeral_iff, Int.natAbs_pow]
  exact Nat.not_lt.2 (Nat.pow_le_pow_right (by decide) h)

theorem printed?_eq_some_iff {i : Int} :
    printed? i = some text ↔ fitsNumeral i = true ∧ toString i = text := by
  rw [printed?, Option.ite_none_right_eq_some, Option.some.injEq]

theorem isSome_printed? (i : Int) : (printed? i).isSome = fitsNumeral i := by
  unfold printed?
  cases fitsNumeral i <;> rfl

end InspectionFeed.Text
