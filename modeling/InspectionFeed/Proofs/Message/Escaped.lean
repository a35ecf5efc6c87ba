/-
The language of escaped values, and that escaping is a bijection onto it
(`escape_bijOn`). A text is escaped when it is written of items: characters that
are not reserved, and marks with a code behind them.

The items are what single characters are escaped to (`isItem_iff`), and glyphs
are cut from the left, so the glyphs of an escaped text are its items again
(`glyphs_escapeChars`). A run of marks has one reading only, and what a text
stands for is told item by item. Both readers, the one that takes every text and
the one that refuses what is not escaped, undo escaping that way.
-/
import InspectionFeed.Proofs.Message.Glyph
import Mathlib.Data.Set.Function
import Mathlib.Data.Set.List

namespace InspectionFeed.Message

/-- The characters that never stand by themselves in an escaped text. -/
def reserved : List Char := ['\'', '\n', '\r', '[', ']', '|']

/-- The characters that stand behind a mark in an escaped text. -/
def codes : List Char := ['\'', 'n', 'r', '[', ']', '|']

namespace Glyph

/-- An item of escaped texts. -/
def IsItem : Glyph → Prop
  | .bare c => c ∉ reserved
  | .escaped code => code ∈ codes

/-- What a glyph stands for. Behind a mark, two letters stand for the ends of a line and all else
for itself. -/
def meaning : Glyph → Char
  | .bare c => c
  | .escaped 'n' => '\n'
  | .escaped 'r' => '\r'
  | .escaped code => code

end Glyph

/-- The text is written of items. -/
def IsEscaped (text : String) : Prop :=
  ∃ items : List Glyph, (∀ g ∈ items, g.IsItem) ∧ items.flatMap Glyph.chars = text.toList

/-- What a text stands for, whether it is escaped or not. -/
def unescape (text : String) : String := .ofList ((glyphs text.toList).map Glyph.meaning)

variable {c code : Char} {g : Glyph} {gs : List Glyph} {t v : String}

/-! ## One character -/

theorem isSome_escapeCode?_iff : (escapeCode? c).isSome = true ↔ c ∈ reserved := by
  unfold escapeCode?
  split <;> simp_all [reserved]

theorem isSome_unescapeCode?_iff : (unescapeCode? code).isSome = true ↔ code ∈ codes := by
  unfold unescapeCode?
  split <;> simp_all [codes]

theorem escapeCode?_eq_some_iff : escapeCode? c = some code ↔ unescapeCode? code = some c := by
  refine ⟨unescapeCode?_of_escapeCode?, fun h => ?_⟩
  unfold unescapeCode? at h
  split at h <;> first | (cases h; rfl) | cases h

/-- The reader of values takes a glyph for a character just when it is what the character is
escaped to. -/
theorem valueChar?_eq_some_iff : g.valueChar? = some c ↔ g = valueGlyph c := by
  refine ⟨fun h => ?_, fun h => h ▸ valueChar?_valueGlyph c⟩
  cases g with
  | bare d =>
    rw [Glyph.valueChar?] at h
    split at h
    · cases h
    next hd =>
      cases h
      rw [valueGlyph, Option.not_isSome_iff_eq_none.1 hd]
  | escaped code => rw [valueGlyph, escapeCode?_eq_some_iff.2 h]

theorem isSome_valueChar?_iff : g.valueChar?.isSome = true ↔ g.IsItem := by
  cases g with
  | bare d =>
    by_cases hd : (escapeCode? d).isSome = true <;>
      simp [Glyph.valueChar?, Glyph.IsItem, ← isSome_escapeCode?_iff, hd]
  | escaped code => exact isSome_unescapeCode?_iff

/-- The items are what characters are escaped to. -/
theorem isItem_iff : g.IsItem ↔ ∃ c, valueGlyph c = g := by
  rw [← isSome_valueChar?_iff, Option.isSome_iff_exists]
  exact exists_congr fun c => valueChar?_eq_some_iff.trans eq_comm

theorem meaning_valueGlyph (c : Char) : (valueGlyph c).meaning = c := by
  unfold valueGlyph
  cases h : escapeCode? c with
  | none => rfl
  | some code =>
    unfold escapeCode? at h
    split at h <;> cases h <;> rfl

/-! ## Whole texts -/

theorem forall_isItem_iff :
    (∀ g ∈ gs, g.IsItem) ↔ ∃ cs : List Char, cs.map valueGlyph = gs := by
  simp only [isItem_iff]
  exact (Set.ext_iff.1 (Set.range_list_map valueGlyph) gs).symm

theorem glyphs_escapeChars (cs : List Char) : glyphs (escapeChars cs) = cs.map valueGlyph := by
  simpa [glyphs] using glyphs_escapeChars_append cs []

theorem flatMap_chars_valueGlyphs (cs : List Char) :
    (cs.map valueGlyph).flatMap Glyph.chars = escapeChars cs := by
  rw [← glyphs_escapeChars, flatMap_chars_glyphs]

/-- The escaped texts are those that values are escaped to. -/
theorem isEscaped_iff : IsEscaped t ↔ ∃ v, t = escape v := by
  constructor
  · rintro ⟨gs, hgs, ht⟩
    obtain ⟨cs, rfl⟩ := forall_isItem_iff.1 hgs
    refine ⟨.ofList cs, String.toList_inj.1 ?_⟩
    rw [← ht, flatMap_chars_valueGlyphs, escape, String.toList_ofList, String.toList_ofList]
  · rintro ⟨v, rfl⟩
    refine ⟨v.toList.map valueGlyph, forall_isItem_iff.2 ⟨_, rfl⟩, ?_⟩
    rw [flatMap_chars_valueGlyphs, escape, String.toList_ofList]

theorem unescape_escape (v : String) : unescape (escape v) = v := by
  have hmeaning : (v.toList.map valueGlyph).map Glyph.meaning = v.toList := by
    simp [List.map_map, Function.comp_def, meaning_valueGlyph]
  rw [unescape, escape, String.toList_ofList, glyphs_escapeChars, hmeaning, String.ofList_toList]

/-! ## The reader that refuses -/

theorem unescapeChars?_eq_mapM (cs : List Char) :
    unescapeChars? cs = (glyphs cs).mapM Glyph.valueChar? := by
  -- One character at the end, a mark with what stands behind it, any other character.
  fun_induction unescapeChars? cs with
  | case1 => rfl
  | case2 c h => simp [glyphs, Glyph.valueChar?, h]
  | case3 c h => simp [glyphs, Glyph.valueChar?, h]
  | case4 d cs x hx ih =>
    rw [glyphs_marked, List.mapM_cons, ← ih]
    cases h : unescapeChars? cs <;> simp [Glyph.valueChar?, hx]
  | case5 d cs hd => simp [glyphs_marked, Glyph.valueChar?, hd]
  | case6 c d cs hc hr => simp [glyphs_bare hc, Glyph.valueChar?, hr]
  | case7 c d cs hc hr ih =>
    rw [glyphs_bare hc, List.mapM_cons, ← ih]
    cases h : unescapeChars? (d :: cs) <;> simp [Glyph.valueChar?, hr]

theorem mapM_valueChar?_eq_some_iff {cs : List Char} :
    gs.mapM Glyph.valueChar? = some cs ↔ gs = cs.map valueGlyph := by
  induction gs generalizing cs with
  | nil => cases cs <;> simp
  | cons g gs ih =>
    rw [List.mapM_cons]
    constructor
    · intro hm
      obtain ⟨c, hc, hm⟩ := Option.bind_eq_some_iff.1 hm
      obtain ⟨cs', hcs, hm⟩ := Option.bind_eq_some_iff.1 hm
      cases hm
      rw [List.map_cons, ← valueChar?_eq_some_iff.1 hc, ← ih.1 hcs]
    · intro hcs
      obtain ⟨c, cs, rfl, rfl, hgs⟩ := List.map_eq_cons_iff.1 hcs.symm
      simp [valueChar?_valueGlyph, ih.2 hgs.symm]

theorem unescape?_eq_some_iff : unescape? t = some v ↔ t = escape v := by
  have hchars (cs : List Char) :
      unescapeChars? t.toList = some cs ↔ t.toList = escapeChars cs := by
    rw [unescapeChars?_eq_mapM, mapM_valueChar?_eq_some_iff]
    refine ⟨fun h => ?_, fun h => by rw [h, glyphs_escapeChars]⟩
    rw [← flatMap_chars_glyphs t.toList, h, flatMap_chars_valueGlyphs]
  rw [unescape?, Option.map_eq_some_iff]
  constructor
  · rintro ⟨cs, hcs, rfl⟩
    apply String.toList_inj.1
    rw [(hchars cs).1 hcs, escape, String.toList_ofList, String.toList_ofList]
  · intro h
    refine ⟨v.toList, (hchars _).2 ?_, String.ofList_toList⟩
    rw [h, escape, String.toList_ofList]

/-- **Escaping is a bijection from all texts onto the escaped ones**, and reading is its inverse
on both sides. The reader that refuses takes just the escaped texts, and reads them the same. -/
theorem escape_bijOn :
    Set.BijOn escape Set.univ {t | IsEscaped t} ∧
      Set.InvOn unescape escape Set.univ {t | IsEscaped t} ∧
      ∀ t v, unescape? t = some v ↔ IsEscaped t ∧ unescape t = v := by
  have hinverse : Set.InvOn unescape escape Set.univ {t | IsEscaped t} := by
    refine ⟨fun v _ => unescape_escape v, fun t ht => ?_⟩
    obtain ⟨v, rfl⟩ := isEscaped_iff.1 ht
    rw [unescape_escape]
  have hmaps : Set.MapsTo escape Set.univ {t | IsEscaped t} := fun v _ => isEscaped_iff.2 ⟨v, rfl⟩
  refine ⟨hinverse.bijOn hmaps fun t _ => Set.mem_univ _, hinverse, fun t v => ?_⟩
  rw [unescape?_eq_some_iff]
  constructor
  · rintro rfl
    exact ⟨isEscaped_iff.2 ⟨v, rfl⟩, unescape_escape v⟩
  · rintro ⟨ht, rfl⟩
    exact (hinverse.2 ht).symm

/-- The marks of a run are paired from the left. -/
example : escape "|n" = "||n" ∧ escape "\n" = "|n" ∧ unescape "|||n" = "|\n" := by decide +kernel

end InspectionFeed.Message
