/-
Which versions a project file supports: those that its classifiers name, each
once and lower ones first. A classifier names a version in the digits of any
script and with any zeros in front (`Names`); the list of versions has them
plainly (`Spells`), and neither order nor repetition of the classifiers tells
in it (`Lists.eq`). A project file gives its document, and with it this list,
where there is room to read it (`exists_keeps`); a list nested too deep stops
the reading, and if nothing looks at it (`deep_list_unanswered`).
-/
import InspectionFeed.Automation.Versions
import InspectionFeed.Host.FileTree
import InspectionFeed.Proofs.Text.Ascii
import InspectionFeed.Proofs.Text.Numeral
import InspectionFeed.Proofs.Toml.Nesting
import Mathlib.Data.List.Nodup

namespace InspectionFeed.Automation

/-- After its start the classifier has two numbers with a point between them, and nothing but
white space around. -/
def Names (classifier : String) (v : Version) : Prop :=
  ∃ rest major minor, classifier = classifierStart ++ rest ∧
    Text.Pads (major ++ "." ++ minor).toList rest.toList ∧
    Text.Writes major v.major ∧ Text.Writes minor v.minor

/-- Between the points of what follows the classifier's start there are no digits that cannot be
read. -/
def Readable (classifier : String) : Prop :=
  ∀ rest, classifier = classifierStart ++ rest →
    ∀ part ∈ (Text.trimChars rest.toList).splitOn '.', ¬ Text.Unreadable (.ofList part)

/-- After its start the classifier has two texts of digits with a point between them, and nothing
but white space around. -/
def Halves (classifier major minor : String) : Prop :=
  Text.isDigits major = true ∧ Text.isDigits minor = true ∧ ∃ rest,
    classifier = classifierStart ++ rest ∧ Text.Pads (major ++ "." ++ minor).toList rest.toList

/-- Of the two texts of digits one cannot be read. -/
def Garbled (classifier : String) : Prop :=
  ∃ major minor, Halves classifier major minor ∧ (Text.Unreadable major ∨ Text.Unreadable minor)

/-- The text is the version in plain decimal. -/
def Spells (text : String) (v : Version) : Prop :=
  ∃ major minor, text = major ++ "." ++ minor ∧
    Text.IsPlain major v.major ∧ Text.IsPlain minor v.minor

/-- Lower, as numbers. -/
def Version.Below (v w : Version) : Prop :=
  v.major < w.major ∨ v.major = w.major ∧ v.minor < w.minor

/-- The versions that the classifiers name, each once and lower ones first. -/
structure Lists (classifiers : List String) (vs : List Version) : Prop where
  ascending : vs.Pairwise Version.Below
  mem_iff : ∀ v, v ∈ vs ↔ ∃ c ∈ classifiers, Names c v

/-- The document has classifiers, all of them texts. -/
def Declares (t : Table) (classifiers : List String) : Prop :=
  ∃ project, t.get? "project" = some (.dict project) ∧
    Table.get? project "classifiers" = some (.list (classifiers.map .str))

/-- The document is the one of the project file, which takes so much room to read. -/
def Keeps (h : Host) (t : Table) (needed : Nat) : Prop :=
  ∃ bytes, h.read (h.directory.child projectFile) = .ok bytes ∧
    ∀ room, documentOf room bytes = if room < needed then .error .tooDeep else .ok t

/-- What the document says about versions, by itself and in the project file. There it is said
exactly when there is room to read the file. -/
def Answers (t : Table) (s : Support) : Prop :=
  Support.ofTable t = .ok s ∧ ∀ h needed, Keeps h t needed →
    ∀ room, support room h = if room < needed then .error .tooDeep else .ok s

variable {c text major minor a b : String} {classifiers classifiers' : List String}
  {v w : Version} {vs vs' : List Version} {t : Table} {h : Host} {s : Support} {bytes : List UInt8}
  {needed : Nat}

theorem readable_iff :
    Readable c ↔ ∀ rest ∈ classifierStart.toList.isPrefixOf? c.toList,
      ∀ part ∈ (Text.trimChars rest).splitOn '.', ¬ Text.Unreadable (.ofList part) := by
  simp only [Option.mem_def, List.isPrefixOf?_eq_some_iff_append_eq]
  constructor
  · intro hr rest hrest
    have hc : c = classifierStart ++ .ofList rest := String.toList_inj.1 (by simp [hrest])
    simpa only [String.toList_ofList] using hr _ hc
  · rintro hr rest rfl
    exact hr rest.toList (String.toList_append ..).symm

instance (c : String) : Decidable (Readable c) := decidable_of_iff _ readable_iff.symm

/-! ## Two numbers and a point -/

theorem halves?_of_isDigits (ha : Text.isDigits a = true) (hb : Text.isDigits b = true) :
    halves? (a ++ "." ++ b).toList = some (a, b) := by
  have hpoint : ∀ x : String, Text.isDigits x = true → ∀ c ∈ x.toList, c ≠ '.' :=
    fun x hx c hc => Text.ne_point_of_isDigit (Text.isDigit_of_isDigits hx hc)
  have htext : (a ++ "." ++ b).toList = a.toList ++ '.' :: b.toList := by simp
  have hbefore : ∀ c ∈ a.toList, decide (c ≠ '.') = true := by simpa using hpoint a ha
  have hafter : '.' ∉ b.toList := fun hmem => hpoint b hb '.' hmem rfl
  rw [htext, halves?, List.dropWhile_append_of_pos hbefore, List.dropWhile_cons_of_neg (by simp)]
  dsimp only
  rw [if_neg hafter, List.takeWhile_append_of_pos hbefore, List.takeWhile_cons_of_neg (by simp),
    List.append_nil, String.ofList_toList, String.ofList_toList]

/-- The two halves are all the parts between points. -/
theorem splitOn_of_halves? {cs : List Char} (h : halves? cs = some (a, b)) :
    cs = (a ++ "." ++ b).toList ∧ cs.splitOn '.' = [a.toList, b.toList] := by
  unfold halves? at h
  split at h
  · cases h
  next point after hdrop =>
    split at h
    · cases h
    next hafter =>
      cases h
      have hpoint : point = '.' := by
        have := List.head?_dropWhile_not (· ≠ '.') cs
        rw [hdrop] at this
        simpa using this
      subst hpoint
      have hcs : cs = cs.takeWhile (· ≠ '.') ++ '.' :: after := by
        rw [← hdrop, List.takeWhile_append_dropWhile]
      have hbefore : '.' ∉ cs.takeWhile (· ≠ '.') := fun hmem => by
        simpa using List.mem_takeWhile_imp hmem
      refine ⟨by simpa using hcs, ?_⟩
      conv_lhs => rw [hcs]
      rw [List.splitOn_append_cons_self_of_not_mem hbefore, List.splitOn_eq_singleton hafter,
        String.toList_ofList, String.toList_ofList]

theorem isTrimmed_of_isDigits (ha : Text.isDigits a = true) (hb : Text.isDigits b = true) :
    Text.IsTrimmed (a ++ "." ++ b).toList := by
  refine Text.isTrimmed_of_forall fun c hc => ?_
  have hmem : c ∈ a.toList ∨ c = '.' ∨ c ∈ b.toList := by simpa [or_assoc] using hc
  rcases hmem with hc | rfl | hc
  · exact Text.isBlank_of_isDigit (Text.isDigit_of_isDigits ha hc)
  · decide
  · exact Text.isBlank_of_isDigit (Text.isDigit_of_isDigits hb hc)

theorem numeralsOf?_eq_some_iff :
    numeralsOf? c = some (major, minor) ↔ Halves c major minor := by
  simp only [Halves, numeralsOf?, Option.bind_eq_bind, Option.bind_eq_some_iff,
    List.isPrefixOf?_eq_some_iff_append_eq, Text.trim, String.toList_ofList]
  constructor
  · rintro ⟨rest, hrest, ⟨a, b⟩, hhalves, hdigits⟩
    split at hdigits
    next h =>
      cases hdigits
      refine ⟨h.1, h.2, .ofList rest, String.toList_inj.1 (by simp [hrest]), ?_⟩
      rw [← (splitOn_of_halves? hhalves).1, String.toList_ofList]
      exact Text.pads_trimChars rest
    · cases hdigits
  · rintro ⟨ha, hb, rest, rfl, hpads⟩
    refine ⟨rest.toList, (String.toList_append ..).symm, (major, minor), ?_, if_pos ⟨ha, hb⟩⟩
    rw [Text.trimChars_of_pads hpads (isTrimmed_of_isDigits ha hb)]
    exact halves?_of_isDigits ha hb

/-! ## One classifier -/

theorem names_iff :
    Names c v ↔ ∃ major minor, numeralsOf? c = some (major, minor) ∧
      Text.Writes major v.major ∧ Text.Writes minor v.minor := by
  constructor
  · rintro ⟨rest, major, minor, hc, hpads, hmajor, hminor⟩
    refine ⟨major, minor, ?_, hmajor, hminor⟩
    exact numeralsOf?_eq_some_iff.2 ⟨hmajor.isDigits, hminor.isDigits, rest, hc, hpads⟩
  · rintro ⟨major, minor, hnumerals, hmajor, hminor⟩
    obtain ⟨-, -, rest, hc, hpads⟩ := numeralsOf?_eq_some_iff.1 hnumerals
    exact ⟨rest, major, minor, hc, hpads, hmajor, hminor⟩

theorem garbled_iff :
    Garbled c ↔ ∃ ns ∈ numeralsOf? c, Text.Unreadable ns.1 ∨ Text.Unreadable ns.2 := by
  constructor
  · rintro ⟨major, minor, hhalves, hu⟩
    exact ⟨_, numeralsOf?_eq_some_iff.2 hhalves, hu⟩
  · rintro ⟨⟨major, minor⟩, hnumerals, hu⟩
    exact ⟨major, minor, numeralsOf?_eq_some_iff.1 hnumerals, hu⟩

instance (c : String) : Decidable (Garbled c) := decidable_of_iff _ garbled_iff.symm

/-- The two halves are all the parts between the points of what is left after trimming. -/
theorem Readable.not_garbled (hr : Readable c) : ¬ Garbled c := by
  rintro ⟨major, minor, ⟨ha, hb, rest, hc, hpads⟩, hu⟩
  have hparts := (splitOn_of_halves? (halves?_of_isDigits ha hb)).2
  rw [← Text.trimChars_of_pads hpads (isTrimmed_of_isDigits ha hb)] at hparts
  have hread : ∀ x ∈ [major, minor], ¬ Text.Unreadable x := fun x hx => by
    have hpart : x.toList ∈ (Text.trimChars rest.toList).splitOn '.' := by
      rw [hparts]
      exact List.mem_map_of_mem hx
    simpa only [String.ofList_toList] using hr rest hc _ hpart
  rcases hu with hu | hu
  · exact hread major (by simp) hu
  · exact hread minor (by simp) hu

/-- What is digits can be read, unless it is garbled. -/
theorem Halves.numerals (hh : Halves c major minor) (hg : ¬ Garbled c) :
    (∃ m, Text.Writes major m ∧ Text.readNumeral major = .ok m) ∧
      ∃ n, Text.Writes minor n ∧ Text.readNumeral minor = .ok n := by
  have hread : ∀ x, Text.isDigits x = true → ¬ Text.Unreadable x →
      ∃ n, Text.Writes x n ∧ Text.readNumeral x = .ok n := fun x hdigits hu => by
    rcases Text.readNumeral_cases hdigits with ⟨n, hwrites, -, hok⟩ | ⟨hu', -⟩
    · exact ⟨n, hwrites, hok⟩
    · exact absurd hu' hu
  exact ⟨hread major hh.1 fun hu => hg ⟨major, minor, hh, .inl hu⟩,
    hread minor hh.2.1 fun hu => hg ⟨major, minor, hh, .inr hu⟩⟩

theorem exists_versionOf (hg : ¬ Garbled c) :
    ∃ named, versionOf (.str c) = .ok named ∧ ∀ v, named = some v ↔ Names c v := by
  cases hnumerals : numeralsOf? c with
  | none =>
    refine ⟨none, by rw [versionOf, hnumerals], fun v => ⟨nofun, fun h => ?_⟩⟩
    obtain ⟨major, minor, hsome, -⟩ := names_iff.1 h
    rw [hnumerals] at hsome
    cases hsome
  | some numerals =>
    obtain ⟨major, minor⟩ := numerals
    obtain ⟨⟨m, hm, hmajor⟩, n, hn, hminor⟩ :=
      (numeralsOf?_eq_some_iff.1 hnumerals).numerals hg
    refine ⟨some ⟨m, n⟩, ?_, fun v => ⟨?_, fun h => ?_⟩⟩
    · simp only [versionOf, hnumerals, hmajor, hminor]
    · rintro ⟨⟩
      exact names_iff.2 ⟨major, minor, hnumerals, hm, hn⟩
    · obtain ⟨major', minor', hsome, hm', hn'⟩ := names_iff.1 h
      rw [hnumerals] at hsome
      cases hsome
      rw [hm.eq hm', hn.eq hn']

/-! ## All classifiers -/

theorem exists_mapM_versionOf (hg : ∀ c ∈ classifiers, ¬ Garbled c) :
    ∃ named, (classifiers.map Value.str).mapM versionOf = .ok named ∧
      ∀ v, some v ∈ named ↔ ∃ c ∈ classifiers, Names c v := by
  induction classifiers with
  | nil => exact ⟨[], rfl, by simp⟩
  | cons c classifiers ih =>
    obtain ⟨first, hfirst, hfirst'⟩ := exists_versionOf (hg c List.mem_cons_self)
    obtain ⟨rest, hrest, hrest'⟩ := ih fun c hc => hg c (List.mem_cons_of_mem _ hc)
    refine ⟨first :: rest, ?_, fun v => ?_⟩
    · rw [List.map_cons, List.mapM_cons, hfirst, hrest]
      rfl
    · rw [List.mem_cons, eq_comm, hfirst', hrest', List.exists_mem_cons_iff]

theorem nodup_eraseDups (vs : List Version) : vs.eraseDups.Nodup := by
  cases vs with
  | nil => exact List.nodup_nil
  | cons v vs =>
    rw [List.eraseDups_cons, List.nodup_cons, List.mem_eraseDups]
    exact ⟨by simp, nodup_eraseDups _⟩
termination_by vs.length
decreasing_by exact Nat.lt_succ_of_le (List.length_filter_le _ _)

theorem pairwise_mergeSort_le (vs : List Version) :
    (vs.mergeSort Version.le).Pairwise fun v w => Version.le v w = true := by
  refine List.pairwise_mergeSort (fun u v w => ?_) (fun v w => ?_) vs
  · simp only [Version.le, Bool.or_eq_true, Bool.and_eq_true, decide_eq_true_eq]
    omega
  · simp only [Version.le, Bool.or_eq_true, Bool.and_eq_true, decide_eq_true_eq]
    omega

theorem Version.below_of_le (h : Version.le v w = true) (hne : v ≠ w) : v.Below w := by
  have hne' : ¬ (v.major = w.major ∧ v.minor = w.minor) := fun ⟨hmajor, hminor⟩ =>
    hne (by cases v; cases w; simp_all)
  simp only [Version.le, Bool.or_eq_true, Bool.and_eq_true, decide_eq_true_eq] at h
  unfold Version.Below
  omega

theorem Version.Below.asymm (h : v.Below w) : ¬ w.Below v := by
  unfold Version.Below at *
  omega

theorem Lists.nodup (h : Lists classifiers vs) : vs.Nodup :=
  h.ascending.imp fun hbelow heq => (heq ▸ hbelow).asymm (heq ▸ hbelow)

/-- What is listed depends only on which classifiers there are. -/
theorem Lists.eq (h : Lists classifiers vs) (h' : Lists classifiers' vs')
    (hsame : ∀ c, c ∈ classifiers' ↔ c ∈ classifiers) : vs' = vs := by
  -- Without repetition equal members make a rearrangement, and strict order allows only one.
  have hperm : vs'.Perm vs := by
    rw [List.perm_ext_iff_of_nodup h'.nodup h.nodup]
    intro v
    rw [h'.mem_iff, h.mem_iff]
    simp only [hsame]
  exact hperm.eq_of_pairwise (fun _ _ _ _ hvw hwv => absurd hwv hvw.asymm) h'.ascending h.ascending

theorem exists_versionsOf_of_not_garbled (hg : ∀ c ∈ classifiers, ¬ Garbled c) :
    ∃ vs, versionsOf (classifiers.map .str) = .ok vs ∧ Lists classifiers vs := by
  obtain ⟨named, hnamed, hmem⟩ := exists_mapM_versionOf hg
  refine ⟨_, by rw [versionsOf, hnamed]; rfl, ?_, fun v => ?_⟩
  · have hnodup : ((named.filterMap id).eraseDups.mergeSort Version.le).Nodup :=
      (List.mergeSort_perm _ _).nodup_iff.2 (nodup_eraseDups _)
    exact ((pairwise_mergeSort_le _).and hnodup).imp fun ⟨hle, hne⟩ => Version.below_of_le hle hne
  · rw [(List.mergeSort_perm _ _).mem_iff, List.mem_eraseDups, ← hmem]
    simp

theorem exists_versionsOf (hr : ∀ c ∈ classifiers, Readable c) :
    ∃ vs, versionsOf (classifiers.map .str) = .ok vs ∧ Lists classifiers vs :=
  exists_versionsOf_of_not_garbled fun c hc => (hr c hc).not_garbled

/-! ## Texts -/

theorem spells_text (v : Version) : Spells v.text v :=
  ⟨_, _, rfl, Text.isPlain_toString v.major, Text.isPlain_toString v.minor⟩

/-- A text spells one version at most. -/
theorem Spells.eq (h : Spells text v) (h' : Spells text w) : v = w := by
  obtain ⟨a, b, rfl, ha, hb⟩ := h
  obtain ⟨a', b', htext, ha', hb'⟩ := h'
  have hhalves := halves?_of_isDigits ha.writes.isDigits hb.writes.isDigits
  rw [htext, halves?_of_isDigits ha'.writes.isDigits hb'.writes.isDigits] at hhalves
  cases hhalves
  obtain ⟨major, minor⟩ := v
  obtain ⟨major', minor'⟩ := w
  rw [Version.mk.injEq]
  exact ⟨ha.writes.eq ha'.writes, hb.writes.eq hb'.writes⟩

theorem text_injective : Function.Injective Version.text := fun v w h =>
  (h ▸ spells_text v).eq (spells_text w)

theorem forall₂_spells (vs : List Version) : List.Forall₂ Spells (vs.map Version.text) vs := by
  rw [List.forall₂_map_left_iff, List.forall₂_same]
  exact fun v _ => spells_text v

/-! ## The project file -/

theorem ofTable_of_declares (hd : Declares t classifiers)
    (hv : versionsOf (classifiers.map .str) = .ok vs) :
    Support.ofTable t = .ok (if vs = [] then .lacking .versions else .found vs) := by
  obtain ⟨project, hproject, hclassifiers⟩ := hd
  simp only [Support.ofTable, hproject, hclassifiers, hv]
  cases vs <;> rfl

/-- What can be read is there. -/
theorem isThere_of_read {path : HostPath} (hread : h.read path = .ok bytes) :
    h.isThere path = .ok true := by
  unfold Host.isThere
  split
  next cause hlook =>
    rw [Host.read, hlook] at hread
    cases hread
  · rfl

theorem support_of_read (hread : h.read (h.directory.child projectFile) = .ok bytes)
    (room : Nat) :
    support room h = documentOf room bytes >>= fun t =>
      (Support.ofTable t).mapError .classifier := by
  simp only [support, isThere_of_read hread, hread]
  rfl

theorem documentOf_of_decode {text : List Char} (hd : Text.Utf8.decode bytes = .ok text)
    (room : Nat) :
    documentOf room bytes = orEmpty (Toml.Strict.read room (Text.unifyLineEnds text)) := by
  rw [documentOf, hd]
  rfl

/-- A project file that is UTF-8 has a document, malformed or not. -/
theorem exists_keeps {text : List Char} (hread : h.read (h.directory.child projectFile) = .ok bytes)
    (hd : Text.Utf8.decode bytes = .ok text) : ∃ t needed, Keeps h t needed := by
  obtain ⟨needed, x, hx, hsettles⟩ := Toml.Strict.settles_read (Text.unifyLineEnds text)
  dsimp only at hsettles
  have hdocument : ∀ room,
      documentOf room bytes = if room < needed then .error .tooDeep else orEmpty x := fun room => by
    rw [documentOf_of_decode hd, hsettles room, apply_ite orEmpty]
    rfl
  rcases x with ⟨_ | _⟩ | t
  · exact ⟨[], needed, bytes, hread, hdocument⟩
  · exact absurd rfl hx
  · exact ⟨t, needed, bytes, hread, hdocument⟩

theorem support_of_keeps (hk : Keeps h t needed) (hs : Support.ofTable t = .ok s) (room : Nat) :
    support room h = if room < needed then .error .tooDeep else .ok s := by
  obtain ⟨bytes, hread, hdocument⟩ := hk
  rw [support_of_read hread, hdocument]
  split
  · rfl
  · exact congrArg (Except.mapError ProjectFault.classifier) hs

theorem answers_of_declares (hd : Declares t classifiers)
    (hv : versionsOf (classifiers.map .str) = .ok vs) :
    Answers t (if vs = [] then .lacking .versions else .found vs) :=
  ⟨ofTable_of_declares hd hv, fun _ _ hk => support_of_keeps hk (ofTable_of_declares hd hv)⟩

/-- **The supported versions.** Where the classifiers can be read, there is one list of the versions
that they name, lower ones first, and the document answers with its texts, all plain and different;
or, when no classifier names a version, with the current one and one warning. Any document with the
same classifiers, in whatever order and however often, has the same answer. A project file gives the
answer of its document exactly when there is room to read it, whatever it is that takes the room. -/
theorem support_of_classifiers (hd : Declares t classifiers)
    (hr : ∀ c ∈ classifiers, Readable c) :
    ∃ vs s, Lists classifiers vs ∧ Answers t s ∧
      ((∃ c ∈ classifiers, ∃ v, Names c v) → ∀ current,
        List.Forall₂ Spells (s.texts current) vs ∧ (s.texts current).Nodup ∧
          s.warnings current = []) ∧
      ((∀ c ∈ classifiers, ∀ v, ¬ Names c v) → ∀ current,
        s.texts current = [current] ∧ s.warnings current = [Lack.versions.message current]) ∧
      ∀ t' classifiers', Declares t' classifiers' → (∀ c, c ∈ classifiers' ↔ c ∈ classifiers) →
        Answers t' s := by
  obtain ⟨vs, hv, hlists⟩ := exists_versionsOf hr
  refine ⟨vs, _, hlists, answers_of_declares hd hv, ?_, ?_, ?_⟩
  · rintro ⟨c, hc, v, hnames⟩ current
    have hmem : v ∈ vs := (hlists.mem_iff v).2 ⟨c, hc, hnames⟩
    rw [if_neg (List.ne_nil_of_mem hmem)]
    exact ⟨forall₂_spells vs, List.Nodup.map text_injective hlists.nodup, rfl⟩
  · intro hnone current
    have hnil : vs = [] := List.eq_nil_iff_forall_not_mem.2 fun v hmem => by
      obtain ⟨c, hc, hnames⟩ := (hlists.mem_iff v).1 hmem
      exact hnone c hc v hnames
    rw [if_pos hnil]
    exact ⟨rfl, rfl⟩
  · intro t' classifiers' hd' hsame
    obtain ⟨vs', hv', hlists'⟩ := exists_versionsOf fun c hc => hr c ((hsame c).1 hc)
    obtain rfl := hlists.eq hlists' hsame
    exact answers_of_declares hd' hv'

/-- The digits of another script, a zero in front and a classifier given twice make no difference,
and a version without a second number does not count. -/
theorem support_of_odd_classifiers :
    let classifiers := ["Programming Language :: Python :: 3.10",
      "Programming Language :: Python :: 3", "Programming Language :: Python ::  \u0663.\u0669\t",
      "Programming Language :: Python :: 03.9", "Programming Language :: Python :: 3.10"]
    let document (cs : List String) : Table :=
      [("project", .dict [("classifiers", .list (cs.map .str))])]
    Declares (document classifiers) classifiers ∧ (∀ c ∈ classifiers, Readable c) ∧
      ∃ s, Answers (document classifiers) s ∧ Answers (document classifiers.reverse) s ∧
        s.texts "3.12" = ["3.9", "3.10"] := by
  intro classifiers document
  have hd : ∀ cs, Declares (document cs) cs := fun cs => ⟨_, rfl, rfl⟩
  have hr : ∀ c ∈ classifiers, Readable c := by decide +kernel
  have hnamed : ((classifiers.map Value.str).mapM versionOf).toOption =
      some [some ⟨3, 10⟩, none, some ⟨3, 9⟩, some ⟨3, 9⟩, some ⟨3, 10⟩] := by decide +kernel
  obtain ⟨-, s, -, hs, -, -, hsame⟩ := support_of_classifiers (hd classifiers) hr
  refine ⟨hd _, hr, s, hs, hsame _ _ (hd _) fun c => List.mem_reverse, ?_⟩
  have hv : versionsOf (classifiers.map .str) = .ok [⟨3, 9⟩, ⟨3, 10⟩] := by
    unfold versionsOf
    revert hnamed
    cases (classifiers.map Value.str).mapM versionOf with
    | error => nofun
    | ok named =>
      rintro ⟨⟩
      have honce : [⟨3, 10⟩, ⟨3, 9⟩, ⟨3, 9⟩, ⟨3, 10⟩].eraseDups = [⟨3, 10⟩, Version.mk 3 9] := by
        decide
      simp [Except.map, honce, List.mergeSort, Version.le]
  cases (ofTable_of_declares (hd classifiers) hv).symm.trans hs.1
  decide

/-- The classifier of a document that declares just one. -/
def onlyClassifier? (t : Table) : Option String :=
  match t.get? "project" with
  | some (.dict project) =>
    match Table.get? project "classifiers" with
    | some (.list [.str c]) => some c
    | _ => none
  | _ => none

theorem declares_of_onlyClassifier? (h : onlyClassifier? t = some c) : Declares t [c] := by
  unfold onlyClassifier? at h
  split at h
  next project hproject =>
    split at h
    next hc =>
      cases h
      exact ⟨project, hproject, hc⟩
    next => cases h
  next => cases h

/-- A list nested 500 deep that nothing looks at. With room for less than a thousand calls the
project file gives no answer, although its only classifier can be read. -/
theorem deep_list_unanswered :
    let classifier := "Programming Language :: Python :: 3.9"
    let text := 'x' :: '=' :: (List.replicate 500 '[' ++ (List.replicate 500 ']' ++
      '\n' :: ("project.classifiers = [\"" ++ classifier ++ "\"]").toList))
    let h := FileTree.host ⟨[(["w", "pyproject.toml"], .file (Text.asciiBytes text))]⟩ ["w"]
    (∃ t, Keeps h t 1000 ∧ Declares t [classifier]) ∧ Readable classifier ∧
      ∀ room < 1000, support room h = .error .tooDeep := by
  intro classifier text h
  have hread : h.read (h.directory.child projectFile) = .ok (Text.asciiBytes text) := by
    decide +kernel
  have hd : Text.Utf8.decode (Text.asciiBytes text) = .ok text := by decide +kernel
  have hplain : text.all (· ≠ '\r') = true := by decide +kernel
  have hdocument : ∀ room, documentOf room (Text.asciiBytes text) =
      orEmpty (Toml.Strict.read room text) := fun room => by
    rw [documentOf_of_decode hd, Text.unifyLineEnds_of_no_return fun c hc =>
      of_decide_eq_true (List.all_eq_true.1 hplain c hc)]
  have hshort : documentOf 999 (Text.asciiBytes text) = .error .tooDeep := by
    rw [hdocument]
    exact congrArg orEmpty (Toml.Strict.read_nested 499 999 _)
  have henough : (documentOf 1000 (Text.asciiBytes text)).toOption.bind onlyClassifier? =
      some classifier := by
    rw [hdocument, Toml.Strict.read_nested 499 1000]
    decide +kernel
  obtain ⟨t, needed, hk⟩ := exists_keeps hread hd
  obtain ⟨bytes, hread', hneeded⟩ := id hk
  cases hread.symm.trans hread'
  have h999 : 999 < needed := by
    by_contra hle
    rw [hneeded, if_neg hle] at hshort
    cases hshort
  have h1000 : ¬ 1000 < needed := fun hlt => by
    rw [hneeded, if_pos hlt] at henough
    cases henough
  obtain rfl : needed = 1000 := by omega
  rw [hneeded, if_neg h1000] at henough
  refine ⟨⟨t, hk, declares_of_onlyClassifier? henough⟩, by decide +kernel, fun room hroom => ?_⟩
  rw [support_of_read hread, hneeded, if_pos hroom]
  rfl

end InspectionFeed.Automation
