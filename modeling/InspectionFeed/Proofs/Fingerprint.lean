/-
The fingerprint is a self-delimiting code of findings: from a text that
begins with one, the finding can be told and so can what follows it
(`fingerprint?_append_inj`). So two findings have the same fingerprint only
when they are the same, and no fingerprint begins another.

Nothing is asked of the contents. A field may look like a length, a
separator or a whole place: its length was read before it, in digits that
end at the first space, so what it holds is never looked at to find its end.

A finding has a fingerprint just when its numbers can be printed.
-/
import InspectionFeed.Diagnostic.Fingerprint
import InspectionFeed.Proofs.Text.Numeral
import Std.Data.String.ToInt

namespace InspectionFeed

/-- From a text that begins with a code word, the word can be told, and so can the rest. -/
def SelfDelimiting {α : Type} (code : α → String) : Prop :=
  ∀ {a b : α} {s t : String}, code a ++ s = code b ++ t → a = b ∧ s = t

namespace SelfDelimiting

variable {α : Type} {code : α → String}

/-- Equally many code words in a row can be told apart from the rest, too. -/
theorem join (hc : SelfDelimiting code) : ∀ {xs ys : List α} {s t : String},
    xs.length = ys.length → String.join (xs.map code) ++ s = String.join (ys.map code) ++ t →
    xs = ys ∧ s = t
  | [], [], s, t, _, h => by simpa using h
  | x :: xs, y :: ys, s, t, hl, h => by
    simp only [List.map_cons, String.join_cons, String.append_assoc] at h
    obtain ⟨rfl, hrest⟩ := hc h
    have hl' : xs.length = ys.length := by simpa using hl
    obtain ⟨rfl, rfl⟩ := hc.join hl' hrest
    exact ⟨rfl, rfl⟩

end SelfDelimiting

/-! ## Numbers and fields -/

/-- Texts that hold no mark end where the first mark is. -/
theorem append_mark_inj {m p q s t : String} {mark : Char} (hm : m.toList = [mark])
    (hp : mark ∉ p.toList) (hq : mark ∉ q.toList) (h : p ++ (m ++ s) = q ++ (m ++ t)) :
    p = q ∧ s = t := by
  have hl : p.toList ++ mark :: s.toList = q.toList ++ mark :: t.toList := by
    simpa [hm] using congrArg String.toList h
  have hlen : p.toList.length = q.toList.length := by
    have := congrArg (List.idxOf mark) hl
    simpa only [List.idxOf_append_of_notMem hp, List.idxOf_append_of_notMem hq,
      List.idxOf_cons_self, Nat.add_zero] using this
  obtain ⟨hpq, hst⟩ := List.append_inj hl hlen
  exact ⟨String.toList_inj.1 hpq, String.toList_inj.1 (List.cons.inj hst).2⟩

theorem isDigit_of_mem_toString {n : Nat} {c : Char} (h : c ∈ (toString n).toList) :
    c.isDigit = true := by
  rw [Nat.toString_eq_repr, Nat.toList_repr] at h
  exact Nat.isDigit_of_mem_toDigits (by decide) (by decide) h

theorem eq_minus_or_isDigit_of_mem_toString {i : Int} {c : Char} (h : c ∈ (toString i).toList) :
    c = '-' ∨ c.isDigit = true := by
  rw [Int.toString_eq_repr, Int.repr_eq_if] at h
  split at h
  · right; exact isDigit_of_mem_toString h
  · rw [String.toList_append, List.mem_append] at h
    rcases h with h | h
    · left; simpa using h
    · right; exact isDigit_of_mem_toString h

/-- A number ends at the space after it. -/
theorem number_append_inj {m n : Nat} {s t : String}
    (h : toString m ++ (" " ++ s) = toString n ++ (" " ++ t)) : m = n ∧ s = t := by
  have hd : ∀ k : Nat, ' ' ∉ (toString k).toList := fun k hk =>
    absurd (isDigit_of_mem_toString hk) (by decide)
  obtain ⟨hmn, hst⟩ := append_mark_inj rfl (hd m) (hd n) h
  exact ⟨Nat.repr_inj.1 hmn, hst⟩

theorem selfDelimiting_sizedField : SelfDelimiting sizedField := by
  intro x y s t h
  simp only [sizedField, String.append_assoc] at h
  obtain ⟨hlen, hrest⟩ := number_append_inj h
  have hl : x.toList ++ s.toList = y.toList ++ t.toList := by
    simpa using congrArg String.toList hrest
  obtain ⟨hxy, hst⟩ := List.append_inj hl hlen
  exact ⟨String.toList_inj.1 hxy, String.toList_inj.1 hst⟩

/-! ## Places -/

theorem isSome_fieldText? (l : Location) :
    l.fieldText?.isSome = (Text.fitsNumeral l.line && Text.fitsNumeral l.column) := by
  rw [← Text.isSome_printed?, ← Text.isSome_printed?, Location.fieldText?]
  cases Text.printed? l.line <;> cases Text.printed? l.column <;> rfl

/-- The content of a field tells its place. -/
theorem Location.eq_of_fieldText? {a b : Location} {text : String}
    (ha : a.fieldText? = some text) (hb : b.fieldText? = some text) : a = b := by
  have hd : ∀ i : Int, '\t' ∉ (toString i).toList := fun i hi =>
    absurd (eq_minus_or_isDigit_of_mem_toString hi) (by decide)
  simp only [fieldText?, Option.bind_eq_bind, Option.bind_eq_some_iff, Option.pure_def,
    Option.some.injEq, Text.printed?_eq_some_iff] at ha hb
  obtain ⟨_, ⟨-, rfl⟩, _, ⟨-, rfl⟩, rfl⟩ := ha
  obtain ⟨_, ⟨-, rfl⟩, _, ⟨-, rfl⟩, h⟩ := hb
  simp only [String.append_assoc] at h
  obtain ⟨hline, h⟩ := append_mark_inj rfl (hd _) (hd _) h
  obtain ⟨hcolumn, hfile⟩ := append_mark_inj rfl (hd _) (hd _) h
  cases a
  cases b
  simp_all [Int.repr_inj]

theorem exists_of_mapM_cons {α β : Type} {f : α → Option β} {a : α} {as : List α} {ys : List β}
    (h : (a :: as).mapM f = some ys) :
    ∃ y ys', f a = some y ∧ as.mapM f = some ys' ∧ ys = y :: ys' := by
  simp only [List.mapM_cons, Option.bind_eq_bind, Option.bind_eq_some_iff, Option.pure_def,
    Option.some.injEq] at h
  obtain ⟨y, hy, ys', hys, rfl⟩ := h
  exact ⟨y, ys', hy, hys, rfl⟩

/-- Items that are told by what each is turned into are told by all of it. -/
theorem eq_of_mapM_eq_some {α β : Type} {f : α → Option β}
    (hf : ∀ {a b : α} {y : β}, f a = some y → f b = some y → a = b) {as bs : List α}
    {ys : List β} (ha : as.mapM f = some ys) (hb : bs.mapM f = some ys) : as = bs := by
  induction as generalizing bs ys with
  | nil =>
    obtain rfl : [] = ys := by simpa using ha
    cases bs with
    | nil => rfl
    | cons b bs =>
      obtain ⟨_, _, -, -, h⟩ := exists_of_mapM_cons hb
      cases h
  | cons a as ih =>
    obtain ⟨y, ys', hy, hys, rfl⟩ := exists_of_mapM_cons ha
    cases bs with
    | nil =>
      simp at hb
    | cons b bs =>
      obtain ⟨_, _, hy', hys', h⟩ := exists_of_mapM_cons hb
      cases h
      rw [hf hy hy', ih hys hys']

theorem length_of_mapM_eq_some {α β : Type} {f : α → Option β} {as : List α} {ys : List β}
    (h : as.mapM f = some ys) : ys.length = as.length := by
  induction as generalizing ys with
  | nil =>
    obtain rfl : [] = ys := by simpa using h
    rfl
  | cons a as ih =>
    obtain ⟨y, ys', -, hys, rfl⟩ := exists_of_mapM_cons h
    rw [List.length_cons, List.length_cons, ih hys]

theorem isSome_mapM {α β : Type} (f : α → Option β) (as : List α) :
    (as.mapM f).isSome = as.all fun a => (f a).isSome := by
  induction as with
  | nil => rfl
  | cons a as ih =>
    rw [List.mapM_cons, List.all_cons, ← ih]
    cases f a <;> cases as.mapM f <;> rfl

/-! ## Findings -/

theorem Severity.key_injective : Function.Injective Severity.key := by
  intro a b
  cases a <;> cases b <;> decide

namespace Diagnostic

/-- The numbers of a finding that its fingerprint has. -/
def numbers (d : Diagnostic) : List Int := d.cwe :: d.frames.flatMap fun l => [l.line, l.column]

/-- No number of the finding is too long to be printed. -/
def isPrintable (d : Diagnostic) : Bool := d.numbers.all Text.fitsNumeral

/-- A weakness class of one digit too many cannot be printed. -/
theorem not_isPrintable_of_cwe {d : Diagnostic} (h : d.cwe = 10 ^ Text.numeralLimit) :
    d.isPrintable = false := by
  rw [isPrintable, numbers, List.all_cons, Bool.and_eq_false_iff, h]
  exact .inl (Text.fitsNumeral_pow le_rfl)

theorem isSome_fingerprint? (d : Diagnostic) : d.fingerprint?.isSome = d.isPrintable := by
  have hfields : d.fieldTexts?.isSome = Text.fitsNumeral d.cwe := by
    rw [← Text.isSome_printed?, fieldTexts?]
    cases Text.printed? d.cwe <;> rfl
  have hplaces : (d.frames.mapM Location.fieldText?).isSome =
      (d.frames.flatMap fun l => [l.line, l.column]).all Text.fitsNumeral := by
    rw [isSome_mapM, List.all_flatMap]
    simp [isSome_fieldText?]
  rw [isPrintable, numbers, List.all_cons, ← hfields, ← hplaces, fingerprint?]
  cases d.fieldTexts? <;> cases d.frames.mapM Location.fieldText? <;> rfl

/-- The fields before the places tell all parts of a finding but these. -/
theorem eq_of_fieldTexts? {a b : Diagnostic} {texts : List String}
    (ha : a.fieldTexts? = some texts) (hb : b.fieldTexts? = some texts)
    (hf : a.frames = b.frames) : a = b := by
  simp only [fieldTexts?, Option.bind_eq_bind, Option.bind_eq_some_iff, Option.pure_def,
    Option.some.injEq, Text.printed?_eq_some_iff] at ha hb
  obtain ⟨_, ⟨-, rfl⟩, rfl⟩ := ha
  obtain ⟨_, ⟨-, rfl⟩, h⟩ := hb
  simp only [List.cons.injEq, and_true] at h
  obtain ⟨hkind, hseverity, hcwe, hinconclusive, hshort, hverbose, hfile⟩ := h
  have hinconclusive' : b.inconclusive = a.inconclusive := by
    revert hinconclusive
    cases a.inconclusive <;> cases b.inconclusive <;> decide
  have hseverity' := Severity.key_injective hseverity
  have hcwe' := Int.repr_inj.1 hcwe
  cases a
  cases b
  simp_all

theorem length_of_fieldTexts? {d : Diagnostic} {texts : List String}
    (h : d.fieldTexts? = some texts) : texts.length = 7 := by
  simp only [fieldTexts?, Option.bind_eq_bind, Option.bind_eq_some_iff, Option.pure_def,
    Option.some.injEq] at h
  obtain ⟨_, -, rfl⟩ := h
  rfl

/-- From a text that begins with a fingerprint, the finding can be told, and so can the rest. -/
theorem eq_of_fingerprint?_append {a b : Diagnostic} {x y s t : String}
    (ha : a.fingerprint? = some x) (hb : b.fingerprint? = some y) (h : x ++ s = y ++ t) :
    a = b ∧ s = t := by
  simp only [fingerprint?, Option.bind_eq_bind, Option.bind_eq_some_iff, Option.pure_def,
    Option.some.injEq] at ha hb
  obtain ⟨fields, hfields, places, hplaces, rfl⟩ := ha
  obtain ⟨fields', hfields', places', hplaces', rfl⟩ := hb
  simp only [String.append_assoc] at h
  have hlen : fields.length = fields'.length :=
    (length_of_fieldTexts? hfields).trans (length_of_fieldTexts? hfields').symm
  obtain ⟨rfl, hrest⟩ := selfDelimiting_sizedField.join hlen h
  obtain ⟨hlen', hrest'⟩ := number_append_inj hrest
  rw [← length_of_mapM_eq_some hplaces, ← length_of_mapM_eq_some hplaces'] at hlen'
  obtain ⟨rfl, hst⟩ := selfDelimiting_sizedField.join hlen' hrest'
  have hframes := eq_of_mapM_eq_some Location.eq_of_fieldText? hplaces hplaces'
  exact ⟨eq_of_fieldTexts? hfields hfields' hframes, hst⟩

/-- Same fingerprint, same finding: what the set of fingerprints of a report relies on. -/
theorem eq_of_fingerprint? {a b : Diagnostic} {x : String} (ha : a.fingerprint? = some x)
    (hb : b.fingerprint? = some x) : a = b :=
  (eq_of_fingerprint?_append ha hb rfl : a = b ∧ "" = "").1

/-- Two findings have one fingerprint when they are the same and can be printed. -/
theorem exists_fingerprint?_iff {a b : Diagnostic} :
    (∃ x, a.fingerprint? = some x ∧ b.fingerprint? = some x) ↔ a = b ∧ a.isPrintable = true := by
  constructor
  · rintro ⟨x, ha, hb⟩
    exact ⟨eq_of_fingerprint? ha hb, by rw [← isSome_fingerprint?, ha, Option.isSome_some]⟩
  · rintro ⟨rfl, hp⟩
    rw [← isSome_fingerprint?] at hp
    obtain ⟨x, hx⟩ := Option.isSome_iff_exists.1 hp
    exact ⟨x, hx, hx⟩

/-- **Fingerprints are uniquely decodable.** Texts that begin with the fingerprints of two
findings are the same only when the findings are, in all their parts, and the rests are; and no
fingerprint begins another one. So findings with one fingerprint are one finding. Just the
findings with numbers that can be printed have one: two findings that are the same have the same
fingerprint unless they hold a number that is too long. -/
theorem fingerprint?_append_inj (a b : Diagnostic) :
    (∀ x y, a.fingerprint? = some x → b.fingerprint? = some y →
      (∀ s t, x ++ s = y ++ t ↔ a = b ∧ s = t) ∧ (x.toList <+: y.toList ↔ a = b)) ∧
    (a.fingerprint?.isSome = a.isPrintable) ∧
    ((∃ x, a.fingerprint? = some x ∧ b.fingerprint? = some x) ↔ a = b ∧ a.isPrintable = true) := by
  refine ⟨fun x y ha hb => ⟨fun s t => ⟨eq_of_fingerprint?_append ha hb, ?_⟩, ?_, ?_⟩,
    isSome_fingerprint? a, exists_fingerprint?_iff⟩
  · rintro ⟨rfl, rfl⟩
    rw [Option.some.inj (ha.symm.trans hb)]
  · rintro ⟨rest, h⟩
    have h' : x ++ String.ofList rest = y ++ "" := String.toList_inj.1 (by simpa using h)
    exact (eq_of_fingerprint?_append ha hb h').1
  · rintro rfl
    obtain rfl := Option.some.inj (ha.symm.trans hb)
    exact List.prefix_rfl

/-- A finding with a number of one digit too many has no fingerprint, so it does not even have the
same one as itself. -/
theorem long_number_has_no_fingerprint :
    let d : Diagnostic := .make "k" "s" "" .none false (10 ^ 4300) [] ""
    d.fingerprint? = none ∧
      ¬ ((∃ x, d.fingerprint? = some x ∧ d.fingerprint? = some x) ↔ d = d) := by
  intro d
  have hp : d.isPrintable = false := not_isPrintable_of_cwe rfl
  rw [← isSome_fingerprint?, Option.isSome_eq_false_iff, Option.isNone_iff_eq_none] at hp
  refine ⟨hp, fun h => ?_⟩
  obtain ⟨x, hx, -⟩ := h.2 rfl
  rw [hp] at hx
  cases hx

end Diagnostic

end InspectionFeed
