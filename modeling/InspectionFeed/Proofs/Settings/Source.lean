/-
What a file says about settings, told from its document.

The settings are the whole document, or in a project file one table of it, if
there is one (`Supplies`). At each of its keys a table holds a value of the
right type or none at all. A file that keeps to this says what its table holds,
or nothing where it has no table (`Says`). Any other file is refused for the
first thing that is wrong with it (`Refuses`). Reading a file gives just that
(`result_ofFile_of_said`, `result_ofFile_of_refuses`).
-/
import InspectionFeed.Settings.Load

namespace InspectionFeed

namespace Settings

/-- A source of settings: a file, and what its table holds. -/
structure Source where
  path : HostPath
  verbose : Option Bool
  /-- Base directories, as they are written there. -/
  basePaths : Option (List String)
  deriving DecidableEq

namespace Source

/-- The directory of the file. -/
def directory (h : Host) (s : Source) : HostPath := s.path.parent.absoluteIn h.directory

/-- The base directories, anchored to the file's own directory. -/
def anchored (h : Host) (s : Source) : Option (List String) :=
  s.basePaths.map (·.map (Path.anchor (s.directory h).text))

def layer (h : Host) (s : Source) : Layer := ⟨s.verbose, s.anchored h, [s.path.text]⟩

end Source

/-- At this key the table holds this flag, or there is none and the table holds nothing. -/
def HoldsFlag (t : Table) (key : String) (flag : Option Bool) : Prop :=
  t.present? key = flag.map .bool

/-- At this key the table holds this list of texts, or there is none and the table holds
nothing. -/
def HoldsTexts (t : Table) (key : String) (texts : Option (List String)) : Prop :=
  t.present? key = texts.map fun texts => .list (texts.map .str)

/-- The table of settings that a file's document supplies, if any. -/
inductive Supplies (path : HostPath) (document : Table) : Option Table → Prop
  | whole (other : path.name ≠ projectFile) : Supplies path document (some document)
  | part {tool t : Table} (project : path.name = projectFile)
    (htool : document.get? "tool" = some (.dict tool))
    (ht : Table.present? tool "tcinspect" = some (.dict t)) : Supplies path document (some t)
  | nothing (project : path.name = projectFile)
    (h : ∀ tool, document.get? "tool" = some (.dict tool) → Table.present? tool "tcinspect" = none) :
    Supplies path document none

/-- What a file says about settings, if it has a table of them. -/
inductive Says (h : Host) (path : HostPath) : Option Source → Prop
  | table {document t : Table} {verbose : Option Bool} {basePaths : Option (List String)}
    (hd : Document.ofFile h path = .ok document) (ht : Supplies path document (some t))
    (hv : HoldsFlag t verboseKey verbose) (hb : HoldsTexts t basePathsKey basePaths) :
    Says h path (some ⟨path, verbose, basePaths⟩)
  | nothing {document : Table} (hd : Document.ofFile h path = .ok document)
    (ht : Supplies path document none) : Says h path none

/-- Why a file is refused: the first thing that is wrong with it. -/
inductive Refuses (h : Host) (path : HostPath) : Fault → Prop
  | document {f : Document.Fault} (hd : Document.ofFile h path = .error f) :
    Refuses h path (.document f)
  | notTable {document tool : Table} {v : Value} (hd : Document.ofFile h path = .ok document)
    (project : path.name = projectFile) (htool : document.get? "tool" = some (.dict tool))
    (hv : Table.present? tool "tcinspect" = some v) (hne : ∀ t, v ≠ .dict t) :
    Refuses h path (.table (.notTable path.text))
  | notTexts {document t : Table} (hd : Document.ofFile h path = .ok document)
    (ht : Supplies path document (some t)) (hb : ∀ texts, ¬ HoldsTexts t basePathsKey texts) :
    Refuses h path (.table (.notTexts basePathsKey))
  | notFlag {document t : Table} {basePaths : Option (List String)} {v : Value}
    (hd : Document.ofFile h path = .ok document) (ht : Supplies path document (some t))
    (hb : HoldsTexts t basePathsKey basePaths) (hv : t.present? verboseKey = some v)
    (hne : ∀ flag, v ≠ .bool flag) :
    Refuses h path (.table (.notFlag verboseKey v.kindName))

variable {h : Host} {path : HostPath} {document t : Table} {key : String}

/-! ## Keys -/

theorem flag?_of_holds {flag : Option Bool} (hf : HoldsFlag t key flag) :
    flag? t key = .ok flag := by
  unfold flag?
  rw [hf]
  cases flag <;> rfl

theorem flag?_of_ne {v : Value} (hv : t.present? key = some v) (hne : ∀ flag, v ≠ .bool flag) :
    flag? t key = .error (.notFlag key v.kindName) := by
  unfold flag?
  rw [hv]
  cases v with
  | bool flag => exact absurd rfl (hne flag)
  | _ => rfl

theorem flag_cases (t : Table) (key : String) :
    (∃ flag, HoldsFlag t key flag) ∨
      ∃ v, t.present? key = some v ∧ ∀ flag, v ≠ .bool flag := by
  unfold HoldsFlag
  cases hv : t.present? key with
  | none => exact .inl ⟨none, rfl⟩
  | some v =>
    cases v with
    | bool flag => exact .inl ⟨some flag, rfl⟩
    | _ => exact .inr ⟨_, rfl, fun _ hne => by cases hne⟩

theorem mapM_text?_eq_some_iff {vs : List Value} {texts : List String} :
    vs.mapM text? = some texts ↔ vs = texts.map .str := by
  induction vs generalizing texts with
  | nil => cases texts <;> simp
  | cons v vs ih =>
    rw [List.mapM_cons]
    constructor
    · intro hm
      cases v with
      | str s =>
        cases hrest : vs.mapM text? with
        | none => rw [hrest] at hm; cases hm
        | some rest =>
          rw [hrest] at hm
          cases hm
          rw [List.map_cons, ih.1 hrest]
      | _ => cases hm
    · intro hv
      cases texts with
      | nil => cases hv
      | cons s texts =>
        obtain ⟨rfl, hrest⟩ := List.cons.inj hv
        rw [ih.2 hrest]
        rfl

theorem texts?_of_holds {texts : Option (List String)} (ht : HoldsTexts t key texts) :
    texts? t key = .ok texts := by
  unfold texts?
  rw [ht]
  cases texts with
  | none => rfl
  | some texts => simp only [Option.map_some, mapM_text?_eq_some_iff.2 rfl]

/-- A table that holds no list of texts at a key is refused for that key. -/
theorem texts_cases (t : Table) (key : String) :
    (∃ texts, HoldsTexts t key texts) ∨
      (∀ texts, ¬ HoldsTexts t key texts) ∧ texts? t key = .error (.notTexts key) := by
  unfold HoldsTexts texts?
  cases hv : t.present? key with
  | none => exact .inl ⟨none, rfl⟩
  | some v =>
    cases v with
    | list vs =>
      cases hm : vs.mapM text? with
      | some texts => exact .inl ⟨some texts, by rw [mapM_text?_eq_some_iff.1 hm]; rfl⟩
      | none =>
        refine .inr ⟨fun texts ht => ?_, by simp only [hm]⟩
        cases texts with
        | none => cases ht
        | some texts =>
          obtain rfl : vs = texts.map .str := by cases ht; rfl
          rw [mapM_text?_eq_some_iff.2 rfl] at hm
          cases hm
    | _ =>
      refine .inr ⟨fun texts ht => ?_, rfl⟩
      cases texts <;> cases ht

/-! ## Tables -/

theorem tableOf_of_supplies {s : Option Table} (hs : Supplies path document s) :
    tableOf path document = .ok s := by
  unfold tableOf
  cases hs with
  | whole other => rw [if_neg other]
  | part project htool ht =>
    rw [if_pos project]
    simp only [sectionOf, htool, ht]
  | nothing project hn =>
    rw [if_pos project]
    unfold sectionOf
    split
    next tool htool => simp only [hn tool htool]
    next => rfl

theorem tableOf_of_notTable {tool : Table} {v : Value} (project : path.name = projectFile)
    (htool : document.get? "tool" = some (.dict tool))
    (hv : Table.present? tool "tcinspect" = some v) (hne : ∀ t, v ≠ .dict t) :
    tableOf path document = .error (.notTable path.text) := by
  unfold tableOf
  rw [if_pos project]
  simp only [sectionOf, htool, hv]

theorem supplies_cases (path : HostPath) (document : Table) :
    (∃ s, Supplies path document s) ∨
      path.name = projectFile ∧ ∃ tool v, document.get? "tool" = some (.dict tool) ∧
        Table.present? tool "tcinspect" = some v ∧ ∀ t, v ≠ .dict t := by
  by_cases project : path.name = projectFile
  · by_cases htool : ∃ tool v, document.get? "tool" = some (.dict tool) ∧
        Table.present? tool "tcinspect" = some v
    · obtain ⟨tool, v, htool, hv⟩ := htool
      by_cases hd : ∃ t, v = .dict t
      · obtain ⟨t, rfl⟩ := hd
        exact .inl ⟨_, .part project htool hv⟩
      · exact .inr ⟨project, tool, v, htool, hv, fun t ht => hd ⟨t, ht⟩⟩
    · refine .inl ⟨none, .nothing project fun tool ht => ?_⟩
      cases hv : Table.present? tool "tcinspect" with
      | none => rfl
      | some v => exact absurd ⟨tool, v, ht, hv⟩ htool
  · exact .inl ⟨_, .whole project⟩

/-! ## Files -/

theorem text_ne_empty (path : HostPath) : path.text ≠ "" := by
  unfold HostPath.text
  dsimp only
  split
  · decide
  · assumption

/-- The layer of a table that is known by its file. -/
theorem result_ofTable (t : Table) (directory : String) (path : HostPath) :
    (Layer.ofTable t (some directory) (some path.text)).result = (do
      let basePaths ← texts? t basePathsKey
      let verbose ← flag? t verboseKey
      return ⟨verbose, basePaths.map (·.map (Path.anchor directory)), [path.text]⟩) := by
  have hsource : (some path.text).filter (· ≠ "") = some path.text := by
    simp [text_ne_empty path]
  rw [Layer.ofTable, hsource]
  rfl

theorem result_ofFile_of_document_error {f : Document.Fault}
    (hd : Document.ofFile h path = .error f) :
    (Layer.ofFile h path).result = .error (.document f) := by
  rw [Layer.ofFile, Logged.result_bind, Logged.result_mapError, Document.result_load, hd]
  rfl

/-- Once there is a document, the rest depends on what it supplies. -/
theorem result_ofFile_of_document (hd : Document.ofFile h path = .ok document) :
    (Layer.ofFile h path).result =
      (tableOf path document).mapError Fault.table >>= fun
        | none => .ok none
        | some t => ((Layer.ofTable t (some (path.parent.absoluteIn h.directory).text)
            (some path.text)).result.mapError Fault.table).map some := by
  rw [Layer.ofFile, Logged.result_bind, Logged.result_mapError, Document.result_load, hd]
  show (Logged.lift ((tableOf path document).mapError Fault.table) >>= _).result = _
  rw [Logged.result_bind]
  rcases tableOf path document with f | _ | t
  · rfl
  · rfl
  · show ((Layer.ofTable t _ (some path.text)).mapError Fault.table >>= _).result = _
    rw [Logged.result_bind, Logged.result_mapError]
    rfl

/-- The layer of a file's table. -/
theorem result_ofFile_of_table (hd : Document.ofFile h path = .ok document)
    (ht : tableOf path document = .ok (some t)) :
    (Layer.ofFile h path).result = (do
      let basePaths ← (texts? t basePathsKey).mapError Fault.table
      let verbose ← (flag? t verboseKey).mapError Fault.table
      return some ((⟨path, verbose, basePaths⟩ : Source).layer h)) := by
  rw [result_ofFile_of_document hd, ht]
  show ((Layer.ofTable t _ (some path.text)).result.mapError Fault.table).map some = _
  rw [result_ofTable]
  cases texts? t basePathsKey with
  | error f => rfl
  | ok basePaths =>
    cases flag? t verboseKey with
    | error f => rfl
    | ok verbose => rfl

/-- Reading a file that says something about settings gives that as a layer. -/
theorem result_ofFile_of_said {s : Option Source} (hs : Says h path s) :
    (Layer.ofFile h path).result = .ok (s.map (Source.layer h)) := by
  cases hs with
  | table hd ht hv hb =>
    rw [result_ofFile_of_table hd (tableOf_of_supplies ht), texts?_of_holds hb, flag?_of_holds hv]
    rfl
  | nothing hd ht =>
    rw [result_ofFile_of_document hd, tableOf_of_supplies ht]
    rfl

theorem result_ofFile_of_refuses {f : Fault} (hf : Refuses h path f) :
    (Layer.ofFile h path).result = .error f := by
  cases hf with
  | document hd => exact result_ofFile_of_document_error hd
  | notTable hd project htool hv hne =>
    rw [result_ofFile_of_document hd, tableOf_of_notTable project htool hv hne]
    rfl
  | @notTexts document t hd ht hb =>
    rcases texts_cases t basePathsKey with ⟨texts, hholds⟩ | ⟨-, herror⟩
    · exact absurd hholds (hb texts)
    · rw [result_ofFile_of_table hd (tableOf_of_supplies ht), herror]
      rfl
  | notFlag hd ht hb hv hne =>
    rw [result_ofFile_of_table hd (tableOf_of_supplies ht), texts?_of_holds hb, flag?_of_ne hv hne]
    rfl

/-- Each file says something, if only that it has nothing to say, or is refused. -/
theorem says_or_refuses (h : Host) (path : HostPath) :
    (∃ s, Says h path s) ∨ ∃ f, Refuses h path f := by
  cases hd : Document.ofFile h path with
  | error f => exact .inr ⟨_, .document hd⟩
  | ok document =>
    rcases supplies_cases path document with ⟨s, hs⟩ | ⟨project, tool, v, htool, hv, hne⟩
    · cases s with
      | none => exact .inl ⟨_, .nothing hd hs⟩
      | some t =>
        rcases texts_cases t basePathsKey with ⟨basePaths, hb⟩ | ⟨hb, -⟩
        · rcases flag_cases t verboseKey with ⟨verbose, hv⟩ | ⟨v, hv, hne⟩
          · exact .inl ⟨_, .table hd hs hv hb⟩
          · exact .inr ⟨_, .notFlag hd hs hb hv hne⟩
        · exact .inr ⟨_, .notTexts hd hs hb⟩
    · exact .inr ⟨_, .notTable hd project htool hv hne⟩

end Settings

end InspectionFeed
