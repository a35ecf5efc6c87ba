/-
A vocabulary sees a text only through its normal form (`find?_by_normalForm`).
The normal form is its own: lower case and the underscore stay what they are, and
no step brings white space to an end of the text. So all texts of one normal form
name the same keyword, and with them all texts that differ only in what the
normal form takes away (`Respelled`).
-/
import InspectionFeed.Proofs.Text.LowerCase
import InspectionFeed.Severity
import Mathlib.Logic.Relation

namespace InspectionFeed.Keyword

open Text

/-- The characters between the words of a spelling. -/
def joiners : List Char := ['-', '_', ' ']

/-- One text is the other spelled anew: with white space around it, with some letters of ASCII in
the other case, or with other joiners strictly inside of what stands between the white space. -/
inductive Respelled : String → String → Prop
  | padded {a b : String} (h : Pads a.toList b.toList) : Respelled a b
  | recased {a b : String} (h : List.Forall₂ (fun c d => c.toLower = d.toLower) a.toList b.toList) :
    Respelled a b
  | rejoined {a b : String} {before inner inner' after : List Char} {first last : Char}
    (hbefore : ∀ c ∈ before, isBlank c = true) (hafter : ∀ c ∈ after, isBlank c = true)
    (hfirst : isBlank first = false) (hlast : isBlank last = false)
    (h : List.Forall₂ (fun c d => c = d ∨ c ∈ joiners ∧ d ∈ joiners) inner inner')
    (ha : a.toList = before ++ (first :: inner ++ [last]) ++ after)
    (hb : b.toList = before ++ (first :: inner' ++ [last]) ++ after) : Respelled a b

/-- One of the keyword's spellings has the normal form of the text. -/
def Owns (k : Keyword) (text : String) : Prop :=
  ∃ spelling ∈ k.spellings, normalForm spelling = normalForm text

/-- The keyword is the first of the vocabulary to own the text. -/
def IsFirst (vocabulary : List Keyword) (text : String) (k : Keyword) : Prop :=
  ∃ earlier later, vocabulary = earlier ++ k :: later ∧ k.Owns text ∧ ∀ e ∈ earlier, ¬ e.Owns text

variable {a b text spelling : String} {c d : Char} {cs ds : List Char} {k : Keyword}
  {vocabulary earlier later : List Keyword} {f : Char → Char}

/-! ## The normal form of a normal form -/

theorem toList_normalForm (text : String) :
    (normalForm text).toList = (lowerFrom false (trimChars text.toList)).map joinerChar := by
  simp only [normalForm, lower, trim, String.toList_ofList]

theorem joinerChar_joinerChar (c : Char) : joinerChar (joinerChar c) = joinerChar c := by
  unfold joinerChar
  by_cases h : c = '-' ∨ c = ' ' <;> simp [h]

theorem isFinal_joinerChar (h : IsFinal c) : IsFinal (joinerChar c) := by
  unfold joinerChar
  split
  · exact (by decide : lowerChar '_' = ['_'])
  · exact h

theorem isBlank_joinerChar (h : isBlank c = false) : isBlank (joinerChar c) = false := by
  unfold joinerChar
  split
  · rfl
  · exact h

theorem isTrimmed_map_joinerChar (h : IsTrimmed cs) : IsTrimmed (cs.map joinerChar) := by
  constructor
  · intro d hd
    rw [List.head?_map] at hd
    obtain ⟨c, hc, rfl⟩ := Option.map_eq_some_iff.1 hd
    exact isBlank_joinerChar (h.head c hc)
  · intro d hd
    rw [List.getLast?_map] at hd
    obtain ⟨c, hc, rfl⟩ := Option.map_eq_some_iff.1 hd
    exact isBlank_joinerChar (h.last c hc)

theorem normalForm_normalForm (text : String) : normalForm (normalForm text) = normalForm text := by
  have htrimmed : IsTrimmed (normalForm text).toList := by
    rw [toList_normalForm]
    exact isTrimmed_map_joinerChar ((isTrimmed_trimChars _).lowerFrom false)
  have hfinal : ∀ c ∈ (normalForm text).toList, IsFinal c := by
    intro c hc
    rw [toList_normalForm, List.mem_map] at hc
    obtain ⟨d, hd, rfl⟩ := hc
    exact isFinal_joinerChar (isFinal_of_mem_lowerFrom hd)
  apply String.toList_inj.1
  rw [toList_normalForm (normalForm text), htrimmed.trimChars_eq, lowerFrom_of_isFinal hfinal,
    toList_normalForm, List.map_map]
  exact List.map_congr_left fun c _ => joinerChar_joinerChar c

/-! ## Respellings -/

theorem normalForm_eq_of_alike
    (h : List.Forall₂ (Alike joinerChar) (trimChars a.toList) (trimChars b.toList)) :
    normalForm a = normalForm b := by
  apply String.toList_inj.1
  rw [toList_normalForm, toList_normalForm, map_lowerFrom_congr h]

/-- The lower case of a capital letter of ASCII stands for it in any word. -/
theorem alike_toLower (f : Char → Char) (c : Char) : Alike f c.toLower c := by
  have hranges : ∀ r ∈ caseIgnorable, r.2 < 65 ∨ 122 < r.1 ∨ 90 < r.1 ∧ r.2 < 97 := by
    decide +kernel
  have hletters : ∀ i < 26, (Char.ofNat (65 + i)).toNat = 65 + i ∧
      (Char.ofNat (97 + i)).toNat = 97 + i ∧ cased.has (.ofNat (65 + i)) = true ∧
      cased.has (.ofNat (97 + i)) = true ∧
      lowerChar (.ofNat (97 + i)) = lowerChar (.ofNat (65 + i)) := by
    decide +kernel
  rcases toLower_cases c with hself | ⟨i, hi, hc, hlower⟩
  · rw [hself]
    exact .refl f c
  obtain ⟨hcapital, hsmall, hcased, hcased', himage⟩ := hletters i hi
  have hignorable : ∀ n, 65 ≤ n → n ≤ 90 ∨ 97 ≤ n → n ≤ 122 → (Char.ofNat n).toNat = n →
      caseIgnorable.has (.ofNat n) = false := by
    intro n hlow hgap hhigh hn
    simp only [Ranges.has, hn, List.any_eq_false, Bool.and_eq_true, decide_eq_true_eq]
    intro r hr
    have := hranges r hr
    omega
  have hsigma : capitalSigma.toNat = 931 := rfl
  rw [hlower, hc]
  refine ⟨?_, hcased'.trans hcased.symm, ?_, by rw [himage]⟩
  · rw [hignorable _ (by omega) (by omega) (by omega) hsmall,
      hignorable _ (by omega) (by omega) (by omega) hcapital]
  · constructor
    · intro h
      rw [h] at hsmall
      omega
    · intro h
      rw [h] at hcapital
      omega

theorem isBlank_toLower (c : Char) : isBlank c.toLower = isBlank c := by
  have hletters : ∀ i < 26, isBlank (.ofNat (97 + i)) = isBlank (.ofNat (65 + i)) := by
    decide +kernel
  rcases toLower_cases c with hself | ⟨i, hi, hc, hlower⟩
  · rw [hself]
  · rw [hlower, hc, hletters i hi]

theorem alike_of_toLower_eq (f : Char → Char) (h : c.toLower = d.toLower) : Alike f c d :=
  (alike_toLower f c).symm.trans (h ▸ alike_toLower f d)

theorem alike_of_mem_joiners (hc : c ∈ joiners) (hd : d ∈ joiners) : Alike joinerChar c d := by
  have hjoiners : ∀ c ∈ joiners, caseIgnorable.has c = false ∧ cased.has c = false ∧
      c ≠ capitalSigma ∧ (lowerChar c).map joinerChar = ['_'] := by
    intro c hc
    simp only [joiners, List.mem_cons, List.not_mem_nil, or_false] at hc
    rcases hc with rfl | rfl | rfl <;> decide +kernel
  obtain ⟨hignorable, hcased, hsigma, hlower⟩ := hjoiners c hc
  obtain ⟨hignorable', hcased', hsigma', hlower'⟩ := hjoiners d hd
  exact ⟨hignorable.trans hignorable'.symm, hcased.trans hcased'.symm,
    iff_of_false hsigma hsigma', hlower.trans hlower'.symm⟩

theorem normalForm_eq_of_respelled (h : Respelled a b) : normalForm a = normalForm b := by
  cases h with
  | padded h =>
    apply String.toList_inj.1
    rw [toList_normalForm, toList_normalForm, h.trimChars_eq]
  | recased h =>
    have hblank : ∀ c d : Char, c.toLower = d.toLower → isBlank c = isBlank d := fun c d hcd => by
      rw [← isBlank_toLower c, hcd, isBlank_toLower]
    exact normalForm_eq_of_alike
      ((forall₂_trimChars hblank h).imp fun _ _ => alike_of_toLower_eq joinerChar)
  | @rejoined before inner inner' after first last hbefore hafter hfirst hlast h ha hb =>
    have htrim : ∀ {core : List Char} {text : String}, IsTrimmed core →
        text.toList = before ++ core ++ after → trimChars text.toList = core :=
      fun hcore htext => trimChars_of_pads ⟨before, after, hbefore, hafter, htext⟩ hcore
    apply normalForm_eq_of_alike
    rw [htrim (isTrimmed_of_ends hfirst hlast) ha, htrim (isTrimmed_of_ends hfirst hlast) hb]
    have hinner : List.Forall₂ (Alike joinerChar) inner inner' := by
      refine h.imp fun c d hcd => ?_
      rcases hcd with rfl | ⟨hc, hd⟩
      · exact .refl _ _
      · exact alike_of_mem_joiners hc hd
    exact .cons (.refl _ _) (List.rel_append hinner (.cons (.refl _ _) .nil))

/-! ## The keyword that is found -/

theorem isSpelledBy_iff : k.isSpelledBy text = true ↔ k.Owns text := by
  simp only [isSpelledBy, List.any_eq_true, beq_iff_eq, Owns]

instance (k : Keyword) (text : String) : Decidable (k.Owns text) :=
  decidable_of_iff _ isSpelledBy_iff

theorem find?_congr (h : normalForm a = normalForm b) :
    find? vocabulary a = find? vocabulary b := by
  simp only [find?, isSpelledBy, h]

theorem find?_eq_some_iff : find? vocabulary text = some k ↔ IsFirst vocabulary text k := by
  rw [find?, List.find?_eq_some_iff_append]
  simp only [Bool.not_eq_true', Bool.eq_false_iff, isSpelledBy_iff, IsFirst, Ne]
  constructor
  · rintro ⟨howns, earlier, later, hsplit, hearlier⟩
    exact ⟨earlier, later, hsplit, howns, hearlier⟩
  · rintro ⟨earlier, later, hsplit, howns, hearlier⟩
    exact ⟨howns, earlier, later, hsplit, hearlier⟩

/-- Some keyword is first where one is there at all. -/
theorem exists_find?_of_owns (hk : k ∈ vocabulary) (h : k.Owns text) :
    ∃ m ∈ vocabulary, find? vocabulary text = some m := by
  have hsome : (List.find? (·.isSpelledBy text) vocabulary).isSome = true :=
    List.find?_isSome.2 ⟨k, hk, isSpelledBy_iff.2 h⟩
  obtain ⟨m, hm⟩ := Option.isSome_iff_exists.1 hsome
  exact ⟨m, List.mem_of_find?_eq_some hm, hm⟩

theorem find?_append_of_some (h : find? earlier text = some k) (later : List Keyword) :
    find? (earlier ++ later) text = some k := by
  unfold find? at h ⊢
  rw [List.find?_append, h, Option.some_or]

/-- **A text is looked up by its normal form.** The normal form of a text names what the text
names, so texts with one normal form name the same keyword, and so do texts that are spelled anew,
however often. What a text names is the first keyword to own its normal form. A keyword's own
spellings name that keyword, or one before it that owns the spelling too. -/
theorem find?_by_normalForm (vocabulary : List Keyword) :
    (∀ text, find? vocabulary (normalForm text) = find? vocabulary text) ∧
    (∀ a b, normalForm a = normalForm b → find? vocabulary a = find? vocabulary b) ∧
    (∀ a b, Relation.EqvGen Respelled a b → find? vocabulary a = find? vocabulary b) ∧
    (∀ text k, find? vocabulary text = some k ↔ IsFirst vocabulary text k) ∧
    ∀ earlier k later, vocabulary = earlier ++ k :: later → ∀ spelling ∈ k.spellings,
      ((∀ e ∈ earlier, ¬ e.Owns spelling) → find? vocabulary spelling = some k) ∧
      ((∃ e ∈ earlier, e.Owns spelling) → ∃ e ∈ earlier, find? vocabulary spelling = some e) := by
  refine ⟨fun text => find?_congr (normalForm_normalForm text), fun a b => find?_congr,
    fun a b h => ?_, fun text k => find?_eq_some_iff, ?_⟩
  · induction h with
    | rel a b h => exact find?_congr (normalForm_eq_of_respelled h)
    | refl a => rfl
    | symm a b _ ih => exact ih.symm
    | trans a b c _ _ ih ih' => exact ih.trans ih'
  · rintro earlier k later rfl spelling hspelling
    have howns : k.Owns spelling := ⟨spelling, hspelling, rfl⟩
    constructor
    · intro hearlier
      exact find?_eq_some_iff.2 ⟨earlier, later, rfl, howns, hearlier⟩
    · rintro ⟨e, he, heowns⟩
      obtain ⟨m, hm, hfind⟩ := exists_find?_of_owns he heowns
      exact ⟨m, hm, find?_append_of_some hfind _⟩

/-- A key is found under another spelling of it. An alias with a sigma at its end is not, since an
earlier keyword has an alias of the same normal form. -/
theorem find?_of_odd_spellings :
    let street : Keyword := ⟨"STREET", "street", ["\u0130-\u039f\u03a3"]⟩
    let route : Keyword := ⟨"ROUTE", "route-66", ["i\u0307 \u03bf\u03c2"]⟩
    Relation.EqvGen Respelled "\u3000ROUTE 66\n" "route-66" ∧
      find? [street, route] "\u3000ROUTE 66\n" = some route ∧
      street.Owns "i\u0307 \u03bf\u03c2" ∧
      find? [street, route] "i\u0307 \u03bf\u03c2" = some street := by
  intro street route
  have hpadded : Respelled "ROUTE 66" "\u3000ROUTE 66\n" :=
    .padded ⟨['\u3000'], ['\n'], List.forall_mem_singleton.2 rfl, List.forall_mem_singleton.2 rfl,
      by decide⟩
  have hrejoined : Respelled "ROUTE 66" "ROUTE-66" :=
    @Respelled.rejoined _ _ [] ['O', 'U', 'T', 'E', ' ', '6'] ['O', 'U', 'T', 'E', '-', '6'] []
      'R' '6' nofun nofun rfl rfl (by decide) (by decide) (by decide)
  have hrecased : Respelled "ROUTE-66" "route-66" := .recased (by decide)
  have hspelled : Relation.EqvGen Respelled "\u3000ROUTE 66\n" "route-66" :=
    .trans _ _ _ (.symm _ _ (.rel _ _ hpadded))
      (.trans _ _ _ (.rel _ _ hrejoined) (.rel _ _ hrecased))
  have howns : street.Owns "i\u0307 \u03bf\u03c2" := by decide +kernel
  obtain ⟨-, -, hrespelled, -, hown⟩ := find?_by_normalForm [street, route]
  refine ⟨hspelled, ?_, howns, ?_⟩
  · rw [hrespelled _ _ hspelled]
    exact (hown [street] route [] rfl "route-66" (by decide)).1 (by decide +kernel)
  · obtain ⟨e, he, hfind⟩ := (hown [street] route [] rfl _ (by decide)).2
      ⟨street, List.mem_singleton_self _, howns⟩
    rwa [List.mem_singleton.1 he] at hfind

end InspectionFeed.Keyword

namespace InspectionFeed.Severity

/-- A text names the severity whose keyword it names. -/
theorem map_keyword_parse? (text : String) :
    (parse? text).map keyword = Keyword.find? (all.map keyword) text := by
  simp only [parse?, Keyword.find?, List.find?_map, Function.comp_def]

end InspectionFeed.Severity
