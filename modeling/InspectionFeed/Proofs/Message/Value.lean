/-
Values of service messages, read back: an escaped value and its closing
quote are read as the value, whatever stands behind the quote
(`valueAndRest?_escapeChars`). An escaped value holds no end of line.

The reader goes from the left and takes a mark with the character behind it,
so a mark that is itself escaped never starts a pair of its own.
-/
import InspectionFeed.Message.Decode

namespace InspectionFeed.Message

/-! ## One character -/

/-- A code stands for the character it was written for. -/
theorem unescapeCode?_of_escapeCode? {c code : Char} (h : escapeCode? c = some code) :
    unescapeCode? code = some c := by
  unfold escapeCode? at h
  split at h <;> first | (cases h; rfl) | cases h

theorem escapeChar_of_some {c code : Char} (h : escapeCode? c = some code) :
    escapeChar c = [escapeMark, code] := by
  simp only [escapeChar, h]

theorem escapeChar_of_none {c : Char} (h : escapeCode? c = none) : escapeChar c = [c] := by
  simp only [escapeChar, h]

/-- An end of line. -/
def isLineEnd (c : Char) : Bool := c == '\n' || c == '\r'

theorem isLineEnd_of_escapeCode? {c code : Char} (h : escapeCode? c = some code) :
    isLineEnd code = false := by
  unfold escapeCode? at h
  split at h <;> first | (cases h; rfl) | cases h

theorem isLineEnd_of_escapeCode?_none {c : Char} (h : escapeCode? c = none) :
    isLineEnd c = false := by
  cases hc : isLineEnd c with
  | false => rfl
  | true =>
    simp only [isLineEnd, Bool.or_eq_true, beq_iff_eq] at hc
    rcases hc with rfl | rfl <;> cases h

theorem isLineEnd_of_mem_escapeChars {v : List Char} {x : Char} (h : x ∈ escapeChars v) :
    isLineEnd x = false := by
  obtain ⟨c, -, hx⟩ := List.mem_flatMap.1 h
  cases hc : escapeCode? c with
  | some code =>
    rw [escapeChar_of_some hc, List.mem_cons, List.mem_singleton] at hx
    rcases hx with rfl | rfl
    · rfl
    · exact isLineEnd_of_escapeCode? hc
  | none =>
    rw [escapeChar_of_none hc, List.mem_singleton] at hx
    subst hx
    exact isLineEnd_of_escapeCode?_none hc

/-! ## Steps of the reader -/

theorem valueAndRest?_quote (rest : List Char) :
    valueAndRest? ('\'' :: rest) = some ([], rest) := by
  cases rest <;> rfl

theorem valueAndRest?_marked {d x : Char} (h : unescapeCode? d = some x) (cs : List Char) :
    valueAndRest? (escapeMark :: d :: cs) =
      (valueAndRest? cs).map fun (v, rest) => (x :: v, rest) := by
  simp [valueAndRest?, escapeMark, h]

theorem valueAndRest?_bare {c : Char} (h : escapeCode? c = none) (cs : List Char) :
    valueAndRest? (c :: cs) = (valueAndRest? cs).map fun (v, rest) => (c :: v, rest) := by
  have hq : c ≠ '\'' := by rintro rfl; simp [escapeCode?] at h
  have hm : c ≠ escapeMark := by rintro rfl; simp [escapeCode?, escapeMark] at h
  cases cs with
  | nil => simp [valueAndRest?]
  | cons d cs => simp [valueAndRest?, hq, hm, h]

/-- **An escaped value and its quote are read as the value**, and nothing behind the quote is
looked at. -/
theorem valueAndRest?_escapeChars (v rest : List Char) :
    valueAndRest? (escapeChars v ++ '\'' :: rest) = some (v, rest) := by
  induction v with
  | nil => exact valueAndRest?_quote rest
  | cons c v ih =>
    rw [escapeChars, List.flatMap_cons, ← escapeChars, List.append_assoc]
    cases h : escapeCode? c with
    | some code =>
      rw [escapeChar_of_some h, List.cons_append, List.singleton_append,
        valueAndRest?_marked (unescapeCode?_of_escapeCode? h), ih]
      rfl
    | none =>
      rw [escapeChar_of_none h, List.singleton_append, valueAndRest?_bare h, ih]
      rfl

end InspectionFeed.Message
