/-
What a text in the environment stands for as a threshold (`StandsFor`): the
number it writes, the threshold of a level by name, or nothing. A text is given
its meaning unless it is digits that write no number that can be read
(`thresholdOfText_eq_ok_iff`, `exists_thresholdOfText_error_iff`).
-/
import InspectionFeed.Log.Threshold
import InspectionFeed.Proofs.Text.Numeral

namespace InspectionFeed.Log

/-- The word that a text in the environment holds. -/
def wordOf (text : String) : String := Text.upper (Text.trim text)

/-- What a word stands for as a threshold. -/
inductive StandsFor (word : String) : Option Nat → Prop
  | number {n : Nat} (h : Text.Writes word n) (hl : word.length ≤ Text.numeralLimit) :
    StandsFor word (some n)
  | named {n : Nat} (h : (word, n) ∈ namedThresholds) : StandsFor word (some n)
  | nothing (hd : Text.isDigits word = false) (hn : ∀ n, (word, n) ∉ namedThresholds) :
    StandsFor word none

variable {text word : String} {given : Option Nat} {n : Nat} {more fewer : Int}

/-- No name of a threshold is taken for digits, and none is there twice. -/
theorem lookup_namedThresholds : ∀ e ∈ namedThresholds, Text.isDigits e.1 = false ∧
    namedThresholds.lookup e.1 = some e.2 := by
  decide +kernel

theorem lookup_eq_none_of_notMem (h : ∀ n, (word, n) ∉ namedThresholds) :
    namedThresholds.lookup word = none := by
  rw [List.lookup_eq_none_iff]
  rintro ⟨name, n⟩ hmem
  rw [bne_iff_ne]
  rintro rfl
  exact h n hmem

theorem thresholdOfText_eq (text : String) :
    thresholdOfText text =
      if Text.isDigits (wordOf text) = true then (Text.readNumeral (wordOf text)).map some
      else .ok (namedThresholds.lookup (wordOf text)) := rfl

theorem thresholdOfText_of_digits (h : Text.isDigits (wordOf text) = true) :
    thresholdOfText text = (Text.readNumeral (wordOf text)).map some := by
  rw [thresholdOfText_eq, if_pos h]

theorem thresholdOfText_of_word (h : Text.isDigits (wordOf text) = false) :
    thresholdOfText text = .ok (namedThresholds.lookup (wordOf text)) := by
  rw [thresholdOfText_eq, if_neg (Bool.eq_false_iff.1 h)]

theorem thresholdOfText_of_standsFor (h : StandsFor (wordOf text) given) :
    thresholdOfText text = .ok given := by
  cases h with
  | number h hl =>
    rw [thresholdOfText_of_digits h.isDigits, Text.readNumeral_of_writes h hl]
    rfl
  | named h =>
    obtain ⟨hdigits, hlookup⟩ := lookup_namedThresholds _ h
    rw [thresholdOfText_of_word hdigits, hlookup]
  | nothing hd hn => rw [thresholdOfText_of_word hd, lookup_eq_none_of_notMem hn]

/-- A text stands for something, or it cannot be read. -/
theorem thresholdOfText_cases (text : String) :
    (∃ given, StandsFor (wordOf text) given ∧ ¬ Text.Unreadable (wordOf text)) ∨
      Text.Unreadable (wordOf text) ∧ ∃ fault, thresholdOfText text = .error fault := by
  cases hdigits : Text.isDigits (wordOf text) with
  | true =>
    rcases Text.readNumeral_cases hdigits with ⟨n, hn, hl, -⟩ | ⟨hu, fault, hfault⟩
    · exact .inl ⟨some n, .number hn hl, hn.not_unreadable hl⟩
    · refine .inr ⟨hu, fault, ?_⟩
      rw [thresholdOfText_of_digits hdigits, hfault]
      rfl
  | false =>
    have hreadable : ¬ Text.Unreadable (wordOf text) := fun hu => by
      rw [hu.1] at hdigits
      cases hdigits
    by_cases hnamed : ∃ n, (wordOf text, n) ∈ namedThresholds
    · obtain ⟨n, hn⟩ := hnamed
      exact .inl ⟨some n, .named hn, hreadable⟩
    · exact .inl ⟨none, .nothing hdigits (not_exists.1 hnamed), hreadable⟩

theorem thresholdOfText_eq_ok_iff :
    thresholdOfText text = .ok given ↔ StandsFor (wordOf text) given := by
  refine ⟨fun h => ?_, thresholdOfText_of_standsFor⟩
  rcases thresholdOfText_cases text with ⟨given', hgiven', -⟩ | ⟨-, fault, hfault⟩
  · have := thresholdOfText_of_standsFor hgiven'
    obtain rfl := Except.ok.inj (h.symm.trans this)
    exact hgiven'
  · rw [h] at hfault
    cases hfault

theorem exists_thresholdOfText_error_iff :
    (∃ fault, thresholdOfText text = .error fault) ↔ Text.Unreadable (wordOf text) := by
  rcases thresholdOfText_cases text with ⟨given, hgiven, hreadable⟩ | ⟨hu, hfault⟩
  · refine iff_of_false ?_ hreadable
    rintro ⟨fault, hfault⟩
    rw [thresholdOfText_of_standsFor hgiven] at hfault
    cases hfault
  · exact iff_of_true hfault hu

/-! ## Counted switches -/

/-- Only asking for both is a contradiction. -/
theorem exists_levelOfCounts? (h : ¬ (0 < more ∧ 0 < fewer)) :
    ∃ level, levelOfCounts? more fewer = some level := by
  unfold levelOfCounts?
  rw [if_neg h]
  repeat' split
  all_goals exact ⟨_, rfl⟩

/-! ## Without a threshold asked for -/

variable {environment : Option String}

theorem threshold_of_some (h : thresholdOfVariable environment = .ok (some n)) (hn : n ≠ 0) :
    threshold none environment = .ok n := by
  obtain ⟨m, rfl⟩ := Nat.exists_eq_succ_of_ne_zero hn
  rw [threshold, h]
  rfl

/-- Zero in the environment counts as no threshold. -/
theorem threshold_of_zero (h : thresholdOfVariable environment = .ok given)
    (hg : given.getD 0 = 0) : threshold none environment = .ok Level.critical.number := by
  rw [threshold, h]
  cases given with
  | none => rfl
  | some n =>
    obtain rfl : n = 0 := hg
    rfl

/-- All lines are shown under zero. -/
theorem shown_zero (events : List Event) : shown 0 events = events :=
  List.filter_eq_self.2 fun e _ => decide_eq_true (Int.natCast_nonneg e.level.number)

/-- No line but a critical one is shown under silence. -/
theorem shown_critical (events : List Event) :
    shown Level.critical.number events = events.filter fun e => e.level = .critical := by
  refine List.filter_congr fun e _ => ?_
  obtain ⟨level, text⟩ := e
  cases level <;> rfl

end InspectionFeed.Log
