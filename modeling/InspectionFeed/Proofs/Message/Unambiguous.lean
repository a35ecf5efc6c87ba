/-
The lines of service messages are unambiguous (`line_unambiguous`): one parser
finds name, form and content of every message in its line, so two messages
have the same line only when they are the same but for the order in which their
attributes were given. A line begins just once, at its start, and its last
character is the only bracket that closes anything.

All of it follows from the glyphs of a line (`glyphs_line`): between the
delimiters that a message writes itself, names and keys have none, and values
have none by themselves.
-/
import InspectionFeed.Proofs.Message.Line

namespace InspectionFeed

namespace Payload

/-- The same value, or the same attributes in whatever order. -/
inductive Same : Payload → Payload → Prop
  | value (text : String) : Same (.value text) (.value text)
  | attributes {ps qs : List (String × String)} :
    ps.Perm qs → Same (.attributes ps) (.attributes qs)

/-- The attributes stand in the order of their keys. -/
def InKeyOrder : Payload → Prop
  | .value _ => True
  | .attributes pairs => pairs.Pairwise fun a b => a.1 < b.1

/-- No key has two values. -/
def HasDistinctKeys (p : Payload) : Prop := (p.pairs.map Prod.fst).Nodup

theorem Same.symm {p q : Payload} (h : p.Same q) : q.Same p := by
  cases h with
  | value text => exact .value text
  | attributes h => exact .attributes h.symm

theorem Same.trans {p q r : Payload} (hpq : p.Same q) (hqr : q.Same r) : p.Same r := by
  cases hpq with
  | value text => exact hqr
  | attributes h =>
    cases hqr with
    | attributes h' => exact .attributes (h.trans h')

/-! ## The order of a line -/

theorem same_sorted (p : Payload) : p.sorted.Same p := by
  cases p with
  | value text => exact .value text
  | attributes pairs => exact .attributes (List.mergeSort_perm pairs _)

theorem inKeyOrder_sorted {p : Payload} (h : p.HasDistinctKeys) : p.sorted.InKeyOrder := by
  cases p with
  | value text => trivial
  | attributes pairs =>
    have hle : (Message.sortPairs pairs).Pairwise fun a b => decide (a.1 ≤ b.1) = true := by
      refine List.pairwise_mergeSort (fun a b c hab hbc => ?_) (fun a b => ?_) pairs
      · exact decide_eq_true (String.le_trans (of_decide_eq_true hab) (of_decide_eq_true hbc))
      · simpa using String.le_total a.1 b.1
    have hperm : (Message.sortPairs pairs).Perm pairs := List.mergeSort_perm pairs _
    have hne : (Message.sortPairs pairs).Pairwise fun a b => a.1 ≠ b.1 :=
      List.pairwise_map.1 ((hperm.map Prod.fst).nodup_iff.2 h)
    refine hle.imp₂ (fun a b hab hne => String.not_le.1 fun hba => ?_) hne
    exact hne (String.le_antisymm (of_decide_eq_true hab) hba)

/-- There is only one order of the keys. -/
theorem InKeyOrder.eq_of_same {p q : Payload} (hp : p.InKeyOrder) (hq : q.InKeyOrder)
    (h : p.Same q) : p = q := by
  cases h with
  | value text => rfl
  | attributes h =>
    refine congrArg Payload.attributes (List.Perm.eq_of_pairwise ?_ hp hq h)
    intro a b _ _ hab hba
    exact absurd hba (String.lt_asymm hab)

end Payload

namespace Message

/-- Name and keys hold no delimiter, and no key has two values. -/
structure Regular (m : Message) : Prop where
  name : isName m.name = true
  keys : ∀ p ∈ m.payload.pairs, isName p.1 = true
  distinct : m.payload.HasDistinctKeys

/-! ## The glyphs of a line -/

/-- The glyphs of a value between quotes. -/
def quotedGlyphs (v : String) : List Glyph :=
  .bare '\'' :: (v.toList.map valueGlyph ++ [.bare '\''])

/-- The glyphs between two values or before the first one. -/
def keyGlyphs (k : String) : List Glyph := .bare ' ' :: (k.toList.map .bare ++ [.bare '='])

def payloadGlyphs : Payload → List Glyph
  | .value text => .bare ' ' :: quotedGlyphs text
  | .attributes pairs => (sortPairs pairs).flatMap fun p => keyGlyphs p.1 ++ quotedGlyphs p.2

theorem glyphs_name_append {s : String} (h : isName s = true) (cs : List Char) :
    glyphs (s.toList ++ cs) = s.toList.map .bare ++ glyphs cs :=
  glyphs_append_of_notMem (notMem_of_isName h rfl) cs

theorem glyphs_quotedValue_append (v : String) (cs : List Char) :
    glyphs ((quotedValue v).toList ++ cs) = quotedGlyphs v ++ glyphs cs := by
  rw [toList_quotedValue, List.cons_append, List.append_assoc, glyphs_bare (by decide),
    glyphs_escapeChars_append, List.singleton_append, glyphs_bare (by decide)]
  simp [quotedGlyphs]

theorem glyphs_attributeText_append {k : String} (hk : isName k = true) (v : String)
    (cs : List Char) :
    glyphs ((attributeText (k, v)).toList ++ cs) = keyGlyphs k ++ quotedGlyphs v ++ glyphs cs := by
  have htext : (attributeText (k, v)).toList ++ cs =
      ' ' :: (k.toList ++ '=' :: ((quotedValue v).toList ++ cs)) := by simp [attributeText]
  rw [htext, glyphs_bare (by decide), glyphs_name_append hk, glyphs_bare (by decide),
    glyphs_quotedValue_append]
  simp [keyGlyphs]

theorem glyphs_attributes_append : ∀ {pairs : List (String × String)},
    (∀ p ∈ pairs, isName p.1 = true) → ∀ cs : List Char,
    glyphs (pairs.flatMap (fun p => (attributeText p).toList) ++ cs) =
      pairs.flatMap (fun p => keyGlyphs p.1 ++ quotedGlyphs p.2) ++ glyphs cs
  | [], _, _ => rfl
  | (k, v) :: pairs, hk, cs => by
    have ih := glyphs_attributes_append (fun p hp => hk p (List.mem_cons_of_mem _ hp)) cs
    rw [List.flatMap_cons, List.append_assoc, glyphs_attributeText_append (hk (k, v) (by simp)), ih]
    simp only [List.flatMap_cons, List.append_assoc]

theorem glyphs_payloadText_append {p : Payload} (hk : ∀ pair ∈ p.pairs, isName pair.1 = true)
    (cs : List Char) : glyphs ((payloadText p).toList ++ cs) = payloadGlyphs p ++ glyphs cs := by
  cases p with
  | value text =>
    have htext : (payloadText (.value text)).toList ++ cs =
        ' ' :: ((quotedValue text).toList ++ cs) := by simp [payloadText]
    rw [htext, glyphs_bare (by decide), glyphs_quotedValue_append]
    rfl
  | attributes pairs =>
    have hk' : ∀ p ∈ sortPairs pairs, isName p.1 = true := fun p hp =>
      hk p (List.mem_mergeSort.1 hp)
    rw [toList_attributes, payloadGlyphs]
    exact glyphs_attributes_append hk' cs

variable {m n : Message}

/-- The glyphs behind the opening of a line. -/
theorem glyphs_body (h : m.Regular) :
    glyphs (m.name.toList ++ ((payloadText m.payload).toList ++ [']'])) =
      m.name.toList.map .bare ++ (payloadGlyphs m.payload ++ [.bare ']']) := by
  rw [glyphs_name_append h.name, glyphs_payloadText_append h.keys]
  rfl

theorem glyphs_line (h : m.Regular) : glyphs m.line.toList =
    opening.toList.map .bare ++
      (m.name.toList.map .bare ++ (payloadGlyphs m.payload ++ [.bare ']'])) := by
  rw [toList_line, glyphs_append_of_notMem (by decide), glyphs_body h]

theorem bare_notMem_quotedGlyphs {d : Char} (hd : (escapeCode? d).isSome = true) (hq : d ≠ '\'')
    (v : String) : Glyph.bare d ∉ quotedGlyphs v := by
  simp [quotedGlyphs, bare_notMem_valueGlyphs hd, hq]

theorem bare_notMem_names {s : String} (h : isName s = true) {d : Char}
    (hd : isDelimiter d = true) : Glyph.bare d ∉ s.toList.map Glyph.bare := by
  simpa using notMem_of_isName h hd

/-- Brackets by themselves are neither in the name nor in what a message carries. -/
theorem bare_bracket_notMem (h : m.Regular) {d : Char} (hd : d = '[' ∨ d = ']') :
    Glyph.bare d ∉ m.name.toList.map Glyph.bare ++ payloadGlyphs m.payload := by
  have hcode : (escapeCode? d).isSome = true := by rcases hd with rfl | rfl <;> rfl
  have hdel : isDelimiter d = true := by simp [isDelimiter, hcode]
  have hquote : d ≠ '\'' := by rcases hd with rfl | rfl <;> decide
  have hspace : d ≠ ' ' := by rcases hd with rfl | rfl <;> decide
  have hequals : d ≠ '=' := by rcases hd with rfl | rfl <;> decide
  rw [List.mem_append, not_or]
  refine ⟨bare_notMem_names h.name hdel, ?_⟩
  cases hp : m.payload with
  | value text => simp [payloadGlyphs, bare_notMem_quotedGlyphs hcode hquote, hspace]
  | attributes pairs =>
    simp only [payloadGlyphs, List.mem_flatMap, not_exists, not_and, List.mem_append, not_or]
    intro p hpm
    have hkey : isName p.1 = true :=
      h.keys p (by rw [hp]; exact List.mem_mergeSort.1 hpm)
    refine ⟨?_, bare_notMem_quotedGlyphs hcode hquote p.2⟩
    have := bare_notMem_names hkey hdel
    simp_all [keyGlyphs]

/-! ## Frames and values -/

/-- What the quotes of attributes and of the end cut, the first frame having a beginning. -/
def piecesFrom (beginning : List Glyph) : List (String × String) → List (List Glyph)
  | [] => [beginning ++ [.bare ']']]
  | (k, v) :: pairs => (beginning ++ keyGlyphs k) :: v.toList.map valueGlyph :: piecesFrom [] pairs

/-- What the quotes of a payload and of the end cut, the first frame having a beginning. -/
def payloadPieces (beginning : List Glyph) : Payload → List (List Glyph)
  | .value text => [beginning ++ [.bare ' '], text.toList.map valueGlyph, [.bare ']']]
  | .attributes pairs => piecesFrom beginning (sortPairs pairs)

theorem quote_notMem_keyGlyphs {k : String} (h : isName k = true) :
    Glyph.bare '\'' ∉ keyGlyphs k := by
  have := bare_notMem_names h (d := '\'') rfl
  simp_all [keyGlyphs]

/-- A quoted value behind a frame is cut at both of its quotes. -/
theorem splitOn_quotedGlyphs {frame : List Glyph} (hf : Glyph.bare '\'' ∉ frame) (v : String)
    (gs : List Glyph) : List.splitOn (Glyph.bare '\'') (frame ++ (quotedGlyphs v ++ gs)) =
      frame :: v.toList.map valueGlyph :: List.splitOn (Glyph.bare '\'') gs := by
  have hv : Glyph.bare '\'' ∉ v.toList.map valueGlyph := bare_notMem_valueGlyphs rfl _
  rw [quotedGlyphs, List.cons_append, List.splitOn_append_cons_self_of_not_mem hf,
    List.append_assoc, List.singleton_append, List.splitOn_append_cons_self_of_not_mem hv]

theorem splitOn_attributes : ∀ {pairs : List (String × String)} {beginning : List Glyph},
    (∀ p ∈ pairs, isName p.1 = true) → Glyph.bare '\'' ∉ beginning →
    List.splitOn (Glyph.bare '\'') (beginning ++
      (pairs.flatMap (fun p => keyGlyphs p.1 ++ quotedGlyphs p.2) ++ [.bare ']'])) =
        piecesFrom beginning pairs
  | [], beginning, _, hb => List.splitOn_eq_singleton (by simpa using hb)
  | (k, v) :: pairs, beginning, hk, hb => by
    have hkey : Glyph.bare '\'' ∉ beginning ++ keyGlyphs k := by
      simp [hb, quote_notMem_keyGlyphs (hk (k, v) (by simp))]
    have ih := splitOn_attributes (fun p hp => hk p (List.mem_cons_of_mem _ hp))
      (List.not_mem_nil (a := Glyph.bare '\''))
    rw [List.nil_append] at ih
    rw [piecesFrom, ← ih, ← splitOn_quotedGlyphs hkey]
    simp only [List.flatMap_cons, List.append_assoc]

theorem splitOn_payloadGlyphs {p : Payload} (hk : ∀ pair ∈ p.pairs, isName pair.1 = true)
    {beginning : List Glyph} (hb : Glyph.bare '\'' ∉ beginning) :
    List.splitOn (Glyph.bare '\'') (beginning ++ (payloadGlyphs p ++ [.bare ']'])) =
      payloadPieces beginning p := by
  cases p with
  | value text =>
    have hf : Glyph.bare '\'' ∉ beginning ++ [.bare ' '] := by simpa using hb
    have hend : List.splitOn (Glyph.bare '\'') [.bare ']'] = [[.bare ']']] := rfl
    rw [payloadPieces, ← hend, ← splitOn_quotedGlyphs hf]
    simp [payloadGlyphs]
  | attributes pairs =>
    exact splitOn_attributes (fun p hp => hk p (List.mem_mergeSort.1 hp)) hb

theorem key?_keyGlyphs {k : String} (h : isName k = true) : key? (keyGlyphs k) = some k := by
  obtain ⟨hname, hafter⟩ := nameOf_append h (g := .bare '=') rfl []
  simp [key?, keyGlyphs, hname, hafter]

theorem attributes?_piecesFrom : ∀ {pairs : List (String × String)},
    (∀ p ∈ pairs, isName p.1 = true) → attributes? (piecesFrom [] pairs) = some pairs
  | [], _ => rfl
  | (k, v) :: pairs, hk => by
    have ih := attributes?_piecesFrom fun p hp => hk p (List.mem_cons_of_mem _ hp)
    simp [piecesFrom, attributes?, key?_keyGlyphs (hk (k, v) (by simp)), value?_valueGlyphs, ih]

/-- Attributes are not taken for a single value: an equals sign stands in front of each value. -/
theorem payload?_payloadPieces {p : Payload} (hk : ∀ pair ∈ p.pairs, isName pair.1 = true) :
    payload? (payloadPieces [] p) = some p.sorted := by
  cases p with
  | value text => simp [payloadPieces, payload?, value?_valueGlyphs, Payload.sorted]
  | attributes pairs =>
    have hattributes : attributes? (piecesFrom [] (sortPairs pairs)) = some (sortPairs pairs) :=
      attributes?_piecesFrom fun p hp => hk p (List.mem_mergeSort.1 hp)
    rw [payloadPieces]
    unfold payload?
    split
    next value heq =>
      cases hs : sortPairs pairs with
      | nil => rw [hs] at heq; cases heq
      | cons p ps => rw [hs] at heq; simp [piecesFrom, keyGlyphs] at heq
    next => rw [hattributes]; rfl

/-- The first frame is the only one that has the beginning, which a delimiter ends. -/
theorem payloadPieces_eq_cons (p : Payload) :
    ∃ g gs pieces, g.isNamePart = false ∧
      ∀ beginning, payloadPieces beginning p = (beginning ++ g :: gs) :: pieces := by
  cases p with
  | value text => exact ⟨.bare ' ', [], _, rfl, fun _ => rfl⟩
  | attributes pairs =>
    cases hs : sortPairs pairs with
    | nil => exact ⟨.bare ']', [], [], rfl, fun _ => by simp [payloadPieces, hs, piecesFrom]⟩
    | cons p ps =>
      refine ⟨.bare ' ', p.1.toList.map .bare ++ [.bare '='],
        p.2.toList.map valueGlyph :: piecesFrom [] ps,
        rfl, fun _ => ?_⟩
      simp only [payloadPieces, hs, piecesFrom, keyGlyphs]

/-- The line of a message is parsed to the message, its attributes in the order of the line. -/
theorem parse?_line (h : m.Regular) : parse? m.line = some m.sorted := by
  have hprefix : opening.toList.isPrefixOf? m.line.toList =
      some (m.name.toList ++ ((payloadText m.payload).toList ++ [']'])) :=
    List.isPrefixOf?_eq_some_iff_append_eq.2 (toList_line m).symm
  obtain ⟨g, gs, pieces, hg, hpieces⟩ := payloadPieces_eq_cons m.payload
  obtain ⟨hname, hafter⟩ := nameOf_append h.name hg gs
  have hpayload := payload?_payloadPieces h.keys
  rw [hpieces, List.nil_append] at hpayload
  simp only [parse?, hprefix, glyphs_body h,
    splitOn_payloadGlyphs h.keys (bare_notMem_names h.name rfl), hpieces, hname, hafter, hpayload]
  rfl

/-! ## Openings and closings -/

/-- A line begins only at its start: a bracket in a name or a value is none by itself. -/
theorem eq_empty_of_opening (h : m.Regular) {a b : String} (heq : m.line = a ++ opening ++ b) :
    a = "" := by
  let start : List Char := "##teamcit".toList
  have hline : m.line.toList = (a.toList ++ start) ++ 'y' :: '[' :: b.toList := by
    rw [heq]; simp [opening, start]
  have hglyphs : glyphs (a.toList ++ start ++ ['y']) ++ .bare '[' :: glyphs b.toList =
      (start ++ ['y']).map .bare ++
        .bare '[' :: (m.name.toList.map .bare ++ (payloadGlyphs m.payload ++ [.bare ']'])) := by
    have := glyphs_line h
    rwa [hline, glyphs_append_cons (by decide), glyphs_bare (by decide)] at this
  have hbody : Glyph.bare '[' ∉
      m.name.toList.map .bare ++ (payloadGlyphs m.payload ++ [.bare ']']) := by
    have := bare_bracket_notMem h (d := '[') (.inl rfl)
    simp_all
  have hstart := (List.append_cons_inj_of_notMem (by decide) hbody).1 hglyphs.symm
  have hchars := congrArg (List.flatMap Glyph.chars) hstart.1
  rw [flatMap_chars_glyphs, flatMap_chars_bare, List.append_assoc] at hchars
  exact String.toList_eq_nil_iff.1 (List.self_eq_append_left.1 hchars)

/-- The bracket at the end of a line is the only one that closes anything. -/
theorem closing_last (h : m.Regular) :
    ∃ gs, glyphs m.line.toList = gs ++ [.bare ']'] ∧ Glyph.bare ']' ∉ gs := by
  refine ⟨opening.toList.map .bare ++ (m.name.toList.map .bare ++ payloadGlyphs m.payload), ?_, ?_⟩
  · rw [glyphs_line h]; simp only [List.append_assoc]
  · rw [List.mem_append, not_or]
    exact ⟨by decide, bare_bracket_notMem h (.inr rfl)⟩

/-! ## Unambiguity -/

/-- What is parsed from the line of a message: its name, and its payload in the order of the
keys. -/
theorem exists_parse?_line (h : m.Regular) :
    ∃ p, parse? m.line = some ⟨m.name, p⟩ ∧ p.Same m.payload ∧ p.InKeyOrder :=
  ⟨m.payload.sorted, parse?_line h, m.payload.same_sorted, Payload.inKeyOrder_sorted h.distinct⟩

/-- A line tells a payload only in the order of the keys. -/
theorem payloadText_eq_of_sorted_eq {p q : Payload} (h : p.sorted = q.sorted) :
    payloadText p = payloadText q := by
  cases p <;> cases q
  case value.value => cases h; rfl
  case attributes.attributes ps qs => rw [payloadText, payloadText, Payload.attributes.inj h]
  all_goals cases h

/-- Two messages have the same line just when they are the same but for the order of attributes. -/
theorem line_eq_iff (hm : m.Regular) (hn : n.Regular) :
    m.line = n.line ↔ m.name = n.name ∧ m.payload.Same n.payload := by
  obtain ⟨p, hp, hpm, hpo⟩ := exists_parse?_line hm
  obtain ⟨q, hq, hqn, hqo⟩ := exists_parse?_line hn
  constructor
  · intro heq
    rw [heq, hq, Option.some.injEq, Message.mk.injEq] at hp
    obtain ⟨hname, rfl⟩ := hp
    exact ⟨hname.symm, hpm.symm.trans hqn⟩
  · rintro ⟨hname, hsame⟩
    have hsorted : m.payload.sorted = n.payload.sorted :=
      (Payload.inKeyOrder_sorted hm.distinct).eq_of_same (Payload.inKeyOrder_sorted hn.distinct)
        ((m.payload.same_sorted.trans hsame).trans n.payload.same_sorted.symm)
    rw [line, line, hname, payloadText_eq_of_sorted_eq hsorted]

/-- **The lines of service messages are unambiguous.** From its line a message is parsed: its name,
whether it carries a value or attributes, and what it carries, the attributes in the order of
their keys. So two messages have the same line just when they have the same name and carry the
same, in whatever order the attributes were given. A line holds no end of line, it holds the
opening at its start and nowhere else, and of its closing brackets only the last character is not
part of an escape. -/
theorem line_unambiguous (hm : m.Regular) (hn : n.Regular) :
    (∃ p, parse? m.line = some ⟨m.name, p⟩ ∧ p.Same m.payload ∧ p.InKeyOrder) ∧
      (m.line = n.line ↔ m.name = n.name ∧ m.payload.Same n.payload) ∧
      isOneLine m.line = true ∧
      (∃ rest, m.line = opening ++ rest) ∧
      (∀ a b : String, m.line = a ++ opening ++ b → a = "") ∧
      ∃ gs, glyphs m.line.toList = gs ++ [.bare ']'] ∧ Glyph.bare ']' ∉ gs :=
  ⟨exists_parse?_line hm, line_eq_iff hm hn, isOneLine_line hm.name hm.keys,
    ⟨_, by simp only [line, String.append_assoc]; rfl⟩, fun _ _ => eq_empty_of_opening hm,
    closing_last hm⟩

/-- A value that looks like the end of one message and another message, under two orders of the
attributes. -/
theorem hostile_line_unambiguous :
    let text := "']\n##teamcity[message text='|"
    let m : Message := .inspection [("message", text), ("file", "a.c")]
    let n : Message := .inspection [("file", "a.c"), ("message", text)]
    m.Regular ∧ n.Regular ∧ m.payload.Same n.payload ∧ m.line = n.line ∧
      isOneLine m.line = true ∧ ∃ p, parse? m.line = some ⟨m.name, p⟩ ∧ p.Same n.payload := by
  intro text m n
  have hm : m.Regular := ⟨by decide, by decide, by unfold Payload.HasDistinctKeys; decide⟩
  have hn : n.Regular := ⟨by decide, by decide, by unfold Payload.HasDistinctKeys; decide⟩
  have hsame : m.payload.Same n.payload := .attributes (.swap _ _ [])
  obtain ⟨⟨p, hp, hpm, -⟩, hline, hone, -⟩ := line_unambiguous hm hn
  exact ⟨hm, hn, hsame, hline.2 ⟨rfl, hsame⟩, hone, p, hp, hpm.trans hsame⟩

end Message

end InspectionFeed
