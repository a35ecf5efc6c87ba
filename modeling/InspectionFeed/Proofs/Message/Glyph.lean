/-
Glyphs of escaped texts. The glyphs of a text are the text again
(`flatMap_chars_glyphs`), a text without a mark is cut into its characters, and
an escaped value into one glyph for each of its characters, none of which
delimits anything (`bare_notMem_valueGlyphs`). So where a value is embedded, the
delimiters of the line are those around it.
-/
import InspectionFeed.Message.Parse
import InspectionFeed.Proofs.Message.Value
import Mathlib.Data.List.Basic

namespace InspectionFeed.Message

/-! ## Cutting -/

theorem glyphs_marked (d : Char) (cs : List Char) :
    glyphs (escapeMark :: d :: cs) = .escaped d :: glyphs cs := by
  rw [glyphs, if_pos rfl]

theorem glyphs_bare {c : Char} (hc : c ≠ escapeMark) (cs : List Char) :
    glyphs (c :: cs) = .bare c :: glyphs cs := by
  cases cs with
  | nil => rfl
  | cons d cs => rw [glyphs, if_neg hc]

/-- Cutting loses nothing. -/
theorem flatMap_chars_glyphs (cs : List Char) : (glyphs cs).flatMap Glyph.chars = cs := by
  fun_induction glyphs cs with
  | case1 => rfl
  | case2 c => rfl
  | case3 d cs ih => simp [Glyph.chars, ih]
  | case4 c d cs hc ih => simp [Glyph.chars, ih]

theorem flatMap_chars_bare (cs : List Char) : (cs.map Glyph.bare).flatMap Glyph.chars = cs := by
  induction cs with
  | nil => rfl
  | cons c cs ih => rw [List.map_cons, List.flatMap_cons, ih]; rfl

/-- A text that holds no mark is cut into its characters, whatever stands behind it. -/
theorem glyphs_append_of_notMem : ∀ {xs : List Char}, escapeMark ∉ xs → ∀ cs : List Char,
    glyphs (xs ++ cs) = xs.map .bare ++ glyphs cs
  | [], _, _ => rfl
  | x :: xs, h, cs => by
    have hx : x ≠ escapeMark := fun hx => h (by simp [hx])
    have hxs : escapeMark ∉ xs := fun hm => h (List.mem_cons_of_mem _ hm)
    rw [List.cons_append, glyphs_bare hx, glyphs_append_of_notMem hxs cs]
    rfl

/-- Behind a character that is no mark a glyph begins. -/
theorem glyphs_append_cons {c : Char} (hc : c ≠ escapeMark) (xs cs : List Char) :
    glyphs (xs ++ c :: cs) = glyphs (xs ++ [c]) ++ glyphs cs := by
  fun_induction glyphs xs with
  | case1 => rw [List.nil_append, List.nil_append, glyphs_bare hc, glyphs_bare hc]; rfl
  | case2 x =>
    by_cases hx : x = escapeMark
    · subst hx
      exact glyphs_marked c cs
    · simp only [List.singleton_append, glyphs_bare hx, glyphs_bare hc]
      rfl
  | case3 d xs ih => simp only [List.cons_append, glyphs_marked, ih]
  | case4 x d xs hx ih =>
    simp only [List.cons_append] at ih ⊢
    rw [glyphs_bare hx, glyphs_bare hx, ih, List.cons_append]

/-! ## Escaped values -/

/-- The glyph of a character of a value. -/
def valueGlyph (c : Char) : Glyph :=
  match escapeCode? c with
  | some code => .escaped code
  | none => .bare c

theorem glyphs_escapeChar_append (c : Char) (cs : List Char) :
    glyphs (escapeChar c ++ cs) = valueGlyph c :: glyphs cs := by
  cases h : escapeCode? c with
  | some code => rw [escapeChar_of_some h]; simp [valueGlyph, h, glyphs_marked]
  | none =>
    have hm : c ≠ escapeMark := by rintro rfl; cases h
    rw [escapeChar_of_none h]; simp [valueGlyph, h, glyphs_bare hm]

/-- An escaped value is cut into one glyph for each character, whatever stands behind it. -/
theorem glyphs_escapeChars_append (v cs : List Char) :
    glyphs (escapeChars v ++ cs) = v.map valueGlyph ++ glyphs cs := by
  induction v with
  | nil => rfl
  | cons c v ih =>
    rw [escapeChars, List.flatMap_cons, ← escapeChars, List.append_assoc,
      glyphs_escapeChar_append, ih]
    rfl

theorem bare_notMem_valueGlyphs {d : Char} (hd : (escapeCode? d).isSome = true) (v : List Char) :
    Glyph.bare d ∉ v.map valueGlyph := by
  intro hm
  obtain ⟨c, -, hc⟩ := List.mem_map.1 hm
  unfold valueGlyph at hc
  split at hc
  · cases hc
  next h => cases hc; rw [h] at hd; cases hd

theorem valueChar?_valueGlyph (c : Char) : (valueGlyph c).valueChar? = some c := by
  cases h : escapeCode? c with
  | some code => simp [valueGlyph, h, Glyph.valueChar?, unescapeCode?_of_escapeCode? h]
  | none => simp [valueGlyph, h, Glyph.valueChar?]

/-- The glyphs of an escaped value are read as the value. -/
theorem value?_valueGlyphs (v : String) : value? (v.toList.map valueGlyph) = some v := by
  have h : (v.toList.map valueGlyph).mapM Glyph.valueChar? = some v.toList := by
    induction v.toList with
    | nil => rfl
    | cons c cs ih => simp [valueChar?_valueGlyph, ih]
  rw [value?, h, Option.map_some, String.ofList_toList]

/-! ## Names -/

/-- A text for names and keys: it holds no delimiter. Letters, digits and the low line, of any
script, are none. -/
def isName (s : String) : Bool := s.toList.all fun c => !isDelimiter c

theorem notMem_of_isName {s : String} (h : isName s = true) {d : Char}
    (hd : isDelimiter d = true) : d ∉ s.toList := by
  intro hm
  have := List.all_eq_true.1 h d hm
  simp [hd] at this

theorem isDelimiter_of_isNameChar {c : Char} (h : isNameChar c = true) : isDelimiter c = false := by
  cases hd : isDelimiter c with
  | false => rfl
  | true =>
    simp only [isDelimiter, Bool.or_eq_true, beq_iff_eq] at hd
    rcases hd with (rfl | rfl) | hd
    · cases h
    · cases h
    · unfold escapeCode? at hd
      split at hd <;> first | cases h | cases hd

/-- The name that glyphs begin with ends where a delimiter stands. -/
theorem nameOf_append {s : String} (h : isName s = true) {g : Glyph} (hg : g.isNamePart = false)
    (gs : List Glyph) :
    nameOf (s.toList.map .bare ++ g :: gs) = s ∧
      afterName (s.toList.map .bare ++ g :: gs) = g :: gs := by
  have hs : ∀ x ∈ s.toList.map Glyph.bare, x.isNamePart = true := by
    intro x hx
    obtain ⟨c, hc, rfl⟩ := List.mem_map.1 hx
    exact List.all_eq_true.1 h c hc
  constructor
  · rw [nameOf, List.takeWhile_append_of_pos hs, List.takeWhile_cons_of_neg (by simp [hg]),
      List.append_nil, flatMap_chars_bare, String.ofList_toList]
  · rw [afterName, List.dropWhile_append_of_pos hs, List.dropWhile_cons_of_neg (by simp [hg])]

end InspectionFeed.Message
