/-
Which project files say something about versions. Where there is no file, no TOML in
it, no table or no list to look into, or no classifier with a version, the current
version stands in with a warning, and items that name no version are passed over
(`Tells`). Four things are not passed over (`Stops`): bytes that are not UTF-8, lists
and tables nested deeper than there is room for, and in the list of classifiers an item
that is no text or one with digits that cannot be read. The first of them ends the
reading, and nothing else does (`support_fails_iff`).
-/
import InspectionFeed.Host.FileTree
import InspectionFeed.Proofs.Automation.Versions
import InspectionFeed.Proofs.Text.Ascii

namespace InspectionFeed.Automation

/-- The project file in the working directory holds these bytes, or there is none. -/
def Holds (h : Host) : Option (List UInt8) → Prop
  | none => h.isThere (h.directory.child projectFile) = .ok false
  | some bytes => h.read (h.directory.child projectFile) = .ok bytes

/-- The document of a project file, where there is room to read it. Without a file, or without
TOML in it, the document is empty. -/
inductive IsDocument (room : Nat) : Option (List UInt8) → Table → Prop
  | absent : IsDocument room none []
  | malformed {bytes : List UInt8} {text : List Char} (hd : Text.Utf8.decode bytes = .ok text)
    (ht : Toml.Strict.read room (Text.unifyLineEnds text) = .error .malformed) :
    IsDocument room (some bytes) []
  | wellFormed {bytes : List UInt8} {text : List Char} {t : Table}
    (hd : Text.Utf8.decode bytes = .ok text)
    (ht : Toml.Strict.read room (Text.unifyLineEnds text) = .ok t) :
    IsDocument room (some bytes) t

/-- The document has a list of classifiers with these items. -/
def Itemizes (t : Table) (items : List Value) : Prop :=
  ∃ project, t.get? "project" = some (.dict project) ∧
    Table.get? project "classifiers" = some (.list items)

/-- The item is no classifier that can be read, and why. -/
inductive Breaks : Value → ClassifierFault → Prop
  | notText {v : Value} (hv : ∀ s, v ≠ .str s) : Breaks v (.notText v)
  | major {c major minor : String} {fault : Text.NumeralFault} (hh : Halves c major minor)
    (hf : Text.readNumeral major = .error fault) : Breaks (.str c) (.numeral fault)
  | minor {c major minor : String} {n : Nat} {fault : Text.NumeralFault}
    (hh : Halves c major minor) (hn : Text.readNumeral major = .ok n)
    (hf : Text.readNumeral minor = .error fault) : Breaks (.str c) (.numeral fault)

/-- The first of the items that cannot be read, and why. -/
def FirstBroken (items : List Value) (fault : ClassifierFault) : Prop :=
  ∃ (before : List String) (v : Value) (after : List Value),
    items = before.map .str ++ v :: after ∧ (∀ c ∈ before, ¬ Garbled c) ∧ Breaks v fault

/-- What a document tells of versions. -/
inductive Tells (t : Table) : Support → Prop
  | found {classifiers : List String} {vs : List Version} (hd : Declares t classifiers)
    (hg : ∀ c ∈ classifiers, ¬ Garbled c) (hl : Lists classifiers vs) (hne : vs ≠ []) :
    Tells t (.found vs)
  | noVersions {classifiers : List String} (hd : Declares t classifiers)
    (hg : ∀ c ∈ classifiers, ¬ Garbled c) (hn : ∀ c ∈ classifiers, ∀ v, ¬ Names c v) :
    Tells t (.lacking .versions)
  | noClassifiers {project : Table} (hp : t.get? "project" = some (.dict project))
    (hc : ∀ items, Table.get? project "classifiers" ≠ some (.list items)) :
    Tells t (.lacking .classifiers)
  | noProject (hp : ∀ project, t.get? "project" ≠ some (.dict project)) :
    Tells t (.lacking .project)

/-- What a project file tells of versions: what its document does. -/
def Gives (room : Nat) (content : Option (List UInt8)) (s : Support) : Prop :=
  ∃ t, IsDocument room content t ∧ Tells t s

/-- Why a project file tells nothing. -/
inductive Stops (room : Nat) : Option (List UInt8) → ProjectFault → Prop
  | undecodable {bytes : List UInt8} {fault : Text.Utf8.Fault}
    (hd : Text.Utf8.decode bytes = .error fault) : Stops room (some bytes) (.undecodable fault)
  | tooDeep {bytes : List UInt8} {text : List Char} (hd : Text.Utf8.decode bytes = .ok text)
    (ht : Toml.Strict.read room (Text.unifyLineEnds text) = .error .tooDeep) :
    Stops room (some bytes) .tooDeep
  | classifier {content : Option (List UInt8)} {t : Table} {items : List Value}
    {fault : ClassifierFault} (hd : IsDocument room content t) (hi : Itemizes t items)
    (hf : FirstBroken items fault) : Stops room content (.classifier fault)

variable {room : Nat} {content : Option (List UInt8)} {bytes : List UInt8} {h : Host} {t : Table}
  {items : List Value} {v : Value} {c major minor : String} {classifiers : List String}
  {fault : ClassifierFault} {s : Support}

/-! ## Items -/

theorem versionOf_of_breaks (hb : Breaks v fault) : versionOf v = .error fault := by
  cases hb with
  | notText hv =>
    cases v with
    | str s => exact absurd rfl (hv s)
    | _ => rfl
  | major hh hf =>
    simp only [versionOf, numeralsOf?_eq_some_iff.2 hh, hf]
  | minor hh hn hf =>
    simp only [versionOf, numeralsOf?_eq_some_iff.2 hh, hn, hf]

/-- Digits that cannot be read break their classifier, the first of them if there are two. -/
theorem exists_breaks_of_garbled (hg : Garbled c) : ∃ fault, Breaks (.str c) fault := by
  obtain ⟨major, minor, hh, hu⟩ := hg
  rcases Text.readNumeral_cases hh.1 with ⟨m, hwrites, hl, hm⟩ | ⟨-, fault, hf⟩
  · have hminor : Text.Unreadable minor := hu.resolve_left (hwrites.not_unreadable hl)
    obtain ⟨fault, hf⟩ := Text.readNumeral_of_unreadable hminor
    exact ⟨_, .minor hh hm hf⟩
  · exact ⟨_, .major hh hf⟩

/-- An item is a classifier that can be read, or it is broken. -/
theorem readable_or_breaks (v : Value) :
    (∃ c, v = .str c ∧ ¬ Garbled c) ∨ ∃ fault, Breaks v fault := by
  cases v with
  | str c =>
    by_cases hg : Garbled c
    · exact .inr (exists_breaks_of_garbled hg)
    · exact .inl ⟨c, rfl, hg⟩
  | _ => exact .inr ⟨_, .notText nofun⟩

/-- All items are classifiers that can be read, or there is a first one that is broken. -/
theorem readable_or_firstBroken (items : List Value) :
    (∃ classifiers : List String, items = classifiers.map .str ∧
      ∀ c ∈ classifiers, ¬ Garbled c) ∨ ∃ fault, FirstBroken items fault := by
  induction items with
  | nil => exact .inl ⟨[], rfl, nofun⟩
  | cons v items ih =>
    rcases readable_or_breaks v with ⟨c, rfl, hc⟩ | ⟨fault, hf⟩
    · rcases ih with ⟨classifiers, rfl, hg⟩ | ⟨fault, before, w, after, rfl, hg, hf⟩
      · exact .inl ⟨c :: classifiers, rfl, List.forall_mem_cons.2 ⟨hc, hg⟩⟩
      · exact .inr ⟨fault, c :: before, w, after, rfl, List.forall_mem_cons.2 ⟨hc, hg⟩, hf⟩
    · exact .inr ⟨fault, [], v, items, rfl, nofun, hf⟩

/-- The first broken item ends the reading, whatever stands behind it. -/
theorem versionsOf_of_firstBroken (hf : FirstBroken items fault) :
    versionsOf items = .error fault := by
  obtain ⟨before, v, after, rfl, hg, hb⟩ := hf
  obtain ⟨named, hnamed, -⟩ := exists_mapM_versionOf hg
  rw [versionsOf, List.mapM_append, hnamed, List.mapM_cons, versionOf_of_breaks hb]
  rfl

/-! ## Documents -/

theorem ofTable_of_firstBroken (hi : Itemizes t items) (hf : FirstBroken items fault) :
    Support.ofTable t = .error fault := by
  obtain ⟨project, hproject, hitems⟩ := hi
  simp only [Support.ofTable, hproject, hitems, versionsOf_of_firstBroken hf, Except.map]

theorem ofTable_of_tells (ht : Tells t s) : Support.ofTable t = .ok s := by
  cases ht with
  | found hd hg hl hne =>
    obtain ⟨vs, hv, hl'⟩ := exists_versionsOf_of_not_garbled hg
    obtain rfl := hl.eq hl' fun _ => Iff.rfl
    rw [ofTable_of_declares hd hv, if_neg hne]
  | noVersions hd hg hn =>
    obtain ⟨vs, hv, hl⟩ := exists_versionsOf_of_not_garbled hg
    have hnil : vs = [] := List.eq_nil_iff_forall_not_mem.2 fun v hmem => by
      obtain ⟨c, hc, hnames⟩ := (hl.mem_iff v).1 hmem
      exact hn c hc v hnames
    rw [ofTable_of_declares hd hv, if_pos hnil]
  | noClassifiers hp hc =>
    unfold Support.ofTable
    rw [hp]
    dsimp only
    split
    next items hitems => exact absurd hitems (hc items)
    next => rfl
  | noProject hp =>
    unfold Support.ofTable
    split
    next project hproject => exact absurd hproject (hp project)
    next => rfl

/-- A document tells something, or its list of classifiers has a broken item. -/
theorem tells_or_firstBroken (t : Table) :
    (∃ s, Tells t s) ∨ ∃ items fault, Itemizes t items ∧ FirstBroken items fault := by
  by_cases hp : ∃ project, t.get? "project" = some (.dict project)
  · obtain ⟨project, hp⟩ := hp
    by_cases hc : ∃ items, Table.get? project "classifiers" = some (.list items)
    · obtain ⟨items, hc⟩ := hc
      have hi : Itemizes t items := ⟨project, hp, hc⟩
      rcases readable_or_firstBroken items with ⟨classifiers, rfl, hg⟩ | ⟨fault, hf⟩
      · obtain ⟨vs, -, hl⟩ := exists_versionsOf_of_not_garbled hg
        by_cases hne : vs = []
        · refine .inl ⟨_, .noVersions hi hg fun c hc v hn => ?_⟩
          have hmem : v ∈ vs := (hl.mem_iff v).2 ⟨c, hc, hn⟩
          rw [hne] at hmem
          cases hmem
        · exact .inl ⟨_, .found hi hg hl hne⟩
      · exact .inr ⟨items, fault, hi, hf⟩
    · exact .inl ⟨_, .noClassifiers hp fun items hitems => hc ⟨items, hitems⟩⟩
  · exact .inl ⟨_, .noProject fun project hproject => hp ⟨project, hproject⟩⟩

/-! ## The project file -/

/-- A project file has a document, or it is not read. -/
theorem document_or_stops (room : Nat) (content : Option (List UInt8)) :
    (∃ t, IsDocument room content t) ∨ ∃ fault, Stops room content fault := by
  cases content with
  | none => exact .inl ⟨_, .absent⟩
  | some bytes =>
    cases hd : Text.Utf8.decode bytes with
    | error fault => exact .inr ⟨_, .undecodable hd⟩
    | ok text =>
      cases ht : Toml.Strict.read room (Text.unifyLineEnds text) with
      | error fault =>
        cases fault with
        | malformed => exact .inl ⟨_, .malformed hd ht⟩
        | tooDeep => exact .inr ⟨_, .tooDeep hd ht⟩
      | ok t => exact .inl ⟨t, .wellFormed hd ht⟩

theorem gives_or_stops (room : Nat) (content : Option (List UInt8)) :
    (∃ s, Gives room content s) ∨ ∃ fault, Stops room content fault := by
  rcases document_or_stops room content with ⟨t, hd⟩ | hf
  · rcases tells_or_firstBroken t with ⟨s, hs⟩ | ⟨items, fault, hi, hf⟩
    · exact .inl ⟨s, t, hd, hs⟩
    · exact .inr ⟨_, .classifier hd hi hf⟩
  · exact .inr hf

theorem documentOf_of_isDocument (hd : IsDocument room (some bytes) t) :
    documentOf room bytes = .ok t := by
  cases hd with
  | malformed hd ht =>
    rw [documentOf_of_decode hd, ht]
    rfl
  | wellFormed hd ht =>
    rw [documentOf_of_decode hd, ht]
    rfl

/-- With a document the answer is what is read from it. -/
theorem support_of_isDocument (hh : Holds h content) (hd : IsDocument room content t) :
    support room h = (Support.ofTable t).mapError .classifier := by
  cases content with
  | none =>
    cases hd
    have hthere : h.isThere (h.directory.child projectFile) = .ok false := hh
    rw [support, hthere]
    rfl
  | some bytes =>
    rw [support_of_read hh, documentOf_of_isDocument hd]
    rfl

theorem support_of_gives (hh : Holds h content) (hg : Gives room content s) :
    support room h = .ok s := by
  obtain ⟨t, hd, ht⟩ := hg
  rw [support_of_isDocument hh hd, ofTable_of_tells ht]
  rfl

theorem support_of_stops {fault : ProjectFault} (hh : Holds h content)
    (hs : Stops room content fault) : support room h = .error fault := by
  cases hs with
  | undecodable hd =>
    rw [support_of_read hh, documentOf, hd]
    rfl
  | tooDeep hd ht =>
    rw [support_of_read hh, documentOf_of_decode hd, ht]
    rfl
  | classifier hd hi hf =>
    rw [support_of_isDocument hh hd, ofTable_of_firstBroken hi hf]
    rfl

theorem support_eq_ok_iff (hh : Holds h content) :
    support room h = .ok s ↔ Gives room content s := by
  refine ⟨fun hs => ?_, support_of_gives hh⟩
  rcases gives_or_stops room content with ⟨s', hg⟩ | ⟨fault, hf⟩
  · rw [support_of_gives hh hg] at hs
    cases hs
    exact hg
  · rw [support_of_stops hh hf] at hs
    cases hs

theorem support_eq_error_iff {fault : ProjectFault} (hh : Holds h content) :
    support room h = .error fault ↔ Stops room content fault := by
  refine ⟨fun hf => ?_, support_of_stops hh⟩
  rcases gives_or_stops room content with ⟨s, hg⟩ | ⟨fault', hf'⟩
  · rw [support_of_gives hh hg] at hf
    cases hf
  · rw [support_of_stops hh hf'] at hf
    cases hf
    exact hf'

/-- Each project file needs a certain room. -/
theorem exists_stops_tooDeep_iff (content : Option (List UInt8)) :
    ∃ needed, ∀ room, Stops room content .tooDeep ↔ room < needed := by
  cases content with
  | none => exact ⟨0, fun room => iff_of_false nofun (Nat.not_lt_zero room)⟩
  | some bytes =>
    cases hd : Text.Utf8.decode bytes with
    | error fault =>
      refine ⟨0, fun room => iff_of_false (fun hs => ?_) (Nat.not_lt_zero room)⟩
      cases hs with
      | tooDeep hd' ht => cases hd.symm.trans hd'
    | ok text =>
      obtain ⟨needed, x, hx, hsettles⟩ := Toml.Strict.settles_read (Text.unifyLineEnds text)
      dsimp only at hsettles
      refine ⟨needed, fun room => ⟨fun hs => ?_, fun hroom => ?_⟩⟩
      · cases hs with
        | tooDeep hd' ht =>
          cases hd.symm.trans hd'
          by_contra hroom
          rw [hsettles, if_neg hroom] at ht
          exact hx ht
      · exact .tooDeep hd (by rw [hsettles, if_pos hroom])

/-- What is told is one version at least, and where it is the current one, a warning says why. -/
theorem texts_of_gives (hg : Gives room content s) (current : String) :
    s.texts current ≠ [] ∧ (s.warnings current = [] ∨
      ∃ lack, s.texts current = [current] ∧ s.warnings current = [Lack.message lack current]) := by
  obtain ⟨t, -, ht⟩ := hg
  cases ht with
  | found hd hg hl hne => exact ⟨mt List.map_eq_nil_iff.1 hne, .inl rfl⟩
  | _ => exact ⟨List.cons_ne_nil _ _, .inr ⟨_, rfl, rfl⟩⟩

/-- **When the project file gives no answer.** Whatever it holds, and also where there is none, the
answer is one version at least, with a warning where the current one stands in, unless its bytes are
not UTF-8, its lists and tables are nested deeper than there is room for, or an item of its
classifiers is no text or has digits that cannot be read. Then there is the fault of the first such
item, and what stands behind it makes no difference. Nesting alone depends on the room, and each
file has enough of it from some room on. -/
theorem support_fails_iff (hh : Holds h content) :
    (∀ room, ((∃ s, support room h = .ok s) ↔ ∀ fault, ¬ Stops room content fault) ∧
      (∀ fault, support room h = .error fault ↔ Stops room content fault) ∧
      (∀ s, support room h = .ok s ↔ Gives room content s) ∧
      ∀ s, support room h = .ok s → ∀ current, s.texts current ≠ [] ∧
        (s.warnings current = [] ∨ ∃ lack, s.texts current = [current] ∧
          s.warnings current = [Lack.message lack current])) ∧
      ∃ needed, ∀ room, support room h = .error .tooDeep ↔ room < needed := by
  refine ⟨fun room => ⟨?_, fun fault => support_eq_error_iff hh, fun s => support_eq_ok_iff hh,
    fun s hs => texts_of_gives ((support_eq_ok_iff hh).1 hs)⟩, ?_⟩
  · simp only [← support_eq_error_iff hh]
    cases support room h with
    | error fault => exact iff_of_false nofun fun hn => hn fault rfl
    | ok s => exact iff_of_true ⟨s, rfl⟩ nofun
  · simpa only [← support_eq_error_iff hh] using exists_stops_tooDeep_iff content

/-- A digit that is not decimal does no harm in a classifier that has three numbers, and there is
room enough for a list of classifiers. -/
theorem three_numbers_passed_over :
    let text := "project.classifiers = [\"Programming Language :: Python :: 3.\\u00b2.1\", " ++
      "\"Programming Language :: Python :: 3.9\"]"
    let bytes := Text.asciiBytes text.toList
    let h := FileTree.host ⟨[(["w", "pyproject.toml"], .file bytes)]⟩ ["w"]
    Holds h (some bytes) ∧ Gives 985 (some bytes) (.found [⟨3, 9⟩]) ∧
      ∀ fault, ¬ Stops 985 (some bytes) fault := by
  intro text bytes h
  have hh : Holds h (some bytes) := by
    show h.read (h.directory.child projectFile) = .ok bytes
    decide +kernel
  have hs : support 985 h = .ok (.found [⟨3, 9⟩]) := by
    have hvalue : (support 985 h).toOption = some (.found [⟨3, 9⟩]) := by decide +kernel
    revert hvalue
    cases support 985 h with
    | error fault => nofun
    | ok s => rintro ⟨⟩; rfl
  obtain ⟨hanswers, -, hgives, -⟩ := (support_fails_iff hh).1 985
  exact ⟨hh, (hgives _).1 hs, hanswers.1 ⟨_, hs⟩⟩

/-- Three project files that end the reading: the byte FF, a number among the classifiers, and a
digit that is not decimal. -/
theorem unusable_project_files_fail :
    let hostOf (bytes : List UInt8) :=
      FileTree.host ⟨[(["w", "pyproject.toml"], .file bytes)]⟩ ["w"]
    let answerTo (bytes : List UInt8) := (support 985 (hostOf bytes)).mapError ProjectFault.message
    let classifiers (items : String) :=
      Text.asciiBytes ("project.classifiers = [" ++ items ++ "]").toList
    answerTo [0xff] =
        .error "'utf-8' codec can't decode byte 0xff in position 0: invalid start byte" ∧
      answerTo (classifiers "1") = .error "'int' object has no attribute 'startswith'" ∧
      answerTo (classifiers "\"Programming Language :: Python :: 3.\\u00b2\"") =
        .error "invalid literal for int() with base 10: '\u00b2'" := by
  decide +kernel

end InspectionFeed.Automation
