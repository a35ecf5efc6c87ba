/-
What in a document has a say in the settings of its file: what stands at two
keys of one table, and nothing else (`SameSource`). Any other key of that table
is warned of, once each and in order, before the two are looked at. The two are
wrong only by their types, and then the base directories come first (`Unfit`).
-/
import InspectionFeed.Proofs.Settings.Source
import Mathlib.Data.String.Basic

namespace InspectionFeed

namespace Settings

/-- The layer that a file's document says, if it has a table of settings. -/
def layerOf (path : HostPath) (document : Table) (directory source : Option String) :
    Logged TableFault (Option Layer) := do
  match ← .lift (tableOf path document) with
  | none => return none
  | some t => return some (← Layer.ofTable t directory source)

/-- Where a project file keeps its table of settings there is something else. -/
def KeepsNoTable (path : HostPath) (document : Table) : Prop :=
  path.name = projectFile ∧ ∃ tool v, document.get? "tool" = some (.dict tool) ∧
    Table.present? tool "tcinspect" = some v ∧ ∀ t, v ≠ .dict t

/-- Two documents of a file that say the same about its settings: their tables hold the same at the
two keys, neither has a table, or both have something else in its place. -/
inductive SameSource (path : HostPath) (document document' : Table) : Prop
  | tables {t t' : Table} (ht : Supplies path document (some t))
    (ht' : Supplies path document' (some t'))
    (hverbose : t.present? verboseKey = t'.present? verboseKey)
    (hbasePaths : t.present? basePathsKey = t'.present? basePathsKey)
  | nothing (h : Supplies path document none) (h' : Supplies path document' none)
  | noTables (h : KeepsNoTable path document) (h' : KeepsNoTable path document')

/-- Why a document gives no settings. -/
inductive Unfit (path : HostPath) (document : Table) : TableFault → Prop
  | notTable (h : KeepsNoTable path document) : Unfit path document (.notTable path.text)
  | notTexts {t : Table} (ht : Supplies path document (some t))
    (hb : ∀ texts, ¬ HoldsTexts t basePathsKey texts) :
    Unfit path document (.notTexts basePathsKey)
  | notFlag {t : Table} {texts : Option (List String)} {v : Value}
    (ht : Supplies path document (some t)) (hb : HoldsTexts t basePathsKey texts)
    (hv : t.present? verboseKey = some v) (hne : ∀ flag, v ≠ .bool flag) :
    Unfit path document (.notFlag verboseKey v.kindName)

/-- The warning about a key that has no effect. -/
def unknownWarning (source : Option String) (key : String) : Log.Event :=
  ⟨.warning, "Ignoring unknown configuration key '" ++ key ++ "' in " ++
    (source.filter (· ≠ "")).getD "<table>"⟩

variable {h : Host} {path : HostPath} {document document' t t' : Table} {key : String}
  {directory source : Option String} {f : TableFault}

/-! ## Tables -/

theorem flag?_congr (h : t.present? key = t'.present? key) : flag? t key = flag? t' key := by
  unfold flag?
  rw [h]

theorem texts?_congr (h : t.present? key = t'.present? key) : texts? t key = texts? t' key := by
  unfold texts?
  rw [h]

theorem result_layer_ofTable (t : Table) (directory source : Option String) :
    (Layer.ofTable t directory source).result = (do
      let basePaths ← texts? t basePathsKey
      let verbose ← flag? t verboseKey
      let anchored := match directory with
        | some d => basePaths.map (·.map (Path.anchor d))
        | none => basePaths
      return ⟨verbose, anchored, (source.filter (· ≠ "")).toList⟩) := rfl

theorem events_layer_ofTable (t : Table) (directory source : Option String) :
    (Layer.ofTable t directory source).events = (unknownKeys t).map (unknownWarning source) :=
  List.append_nil _

theorem pairwise_unknownKeys (t : Table) : (unknownKeys t).Pairwise (· ≤ ·) := by
  have hsorted : (unknownKeys t).Pairwise fun a b => decide (a ≤ b) = true :=
    List.pairwise_mergeSort (fun a b c => by simpa using String.le_trans)
      (fun a b => by simpa using String.le_total a b) _
  exact hsorted.imp of_decide_eq_true

theorem unknownKeys_perm (t : Table) :
    (unknownKeys t).Perm (t.keys.filter fun k => k ≠ verboseKey ∧ k ≠ basePathsKey) :=
  List.mergeSort_perm _ _

/-- Keys that are there once are warned of once. -/
theorem strict_unknownKeys (hn : t.keys.Nodup) : (unknownKeys t).Pairwise (· < ·) := by
  have hnodup : (unknownKeys t).Nodup := (unknownKeys_perm t).nodup_iff.2 (hn.filter _)
  exact ((pairwise_unknownKeys t).and hnodup).imp fun ⟨hle, hne⟩ => lt_of_le_of_ne hle hne

/-! ## Documents -/

theorem tableOf_of_keepsNoTable (h : KeepsNoTable path document) :
    tableOf path document = .error (.notTable path.text) := by
  obtain ⟨project, tool, v, htool, hv, hne⟩ := h
  exact tableOf_of_notTable project htool hv hne

theorem layerOf_of_error (h : tableOf path document = .error f) :
    layerOf path document directory source = ⟨[], .error f⟩ := by
  rw [layerOf, h]
  rfl

theorem layerOf_of_nothing (h : Supplies path document none) :
    layerOf path document directory source = ⟨[], .ok none⟩ := by
  rw [layerOf, tableOf_of_supplies h]
  rfl

theorem layerOf_of_table (ht : Supplies path document (some t)) :
    layerOf path document directory source =
      ⟨(unknownKeys t).map (unknownWarning source),
        (Layer.ofTable t directory source).result.map some⟩ := by
  rw [layerOf, tableOf_of_supplies ht, ← events_layer_ofTable t directory source]
  show (Layer.ofTable t directory source >>= fun l => pure (some l)) = _
  rcases Layer.ofTable t directory source with ⟨events, f | l⟩
  · rfl
  · exact congrArg (Logged.mk · _) (List.append_nil _)

/-- Reading a file makes the layer of its document. -/
theorem result_ofFile_eq_layerOf (hd : Document.ofFile h path = .ok document) :
    (Layer.ofFile h path).result =
      (layerOf path document (some (path.parent.absoluteIn h.directory).text)
        (some path.text)).result.mapError Fault.table := by
  rw [result_ofFile_of_document hd]
  rcases supplies_cases path document with ⟨_ | t, hs⟩ | hno
  · rw [tableOf_of_supplies hs, layerOf_of_nothing hs]
    rfl
  · rw [tableOf_of_supplies hs, layerOf_of_table hs]
    show ((Layer.ofTable t _ _).result.mapError Fault.table).map some = _
    generalize (Layer.ofTable t _ _).result = r
    cases r <;> rfl
  · rw [tableOf_of_keepsNoTable hno, layerOf_of_error (tableOf_of_keepsNoTable hno)]
    rfl

theorem result_layerOf_congr (h : SameSource path document document') :
    (layerOf path document directory source).result =
      (layerOf path document' directory source).result := by
  cases h with
  | tables ht ht' hverbose hbasePaths =>
    rw [layerOf_of_table ht, layerOf_of_table ht']
    simp only [result_layer_ofTable, texts?_congr hbasePaths, flag?_congr hverbose]
  | nothing h h' => rw [layerOf_of_nothing h, layerOf_of_nothing h']
  | noTables h h' =>
    rw [layerOf_of_error (tableOf_of_keepsNoTable h), layerOf_of_error (tableOf_of_keepsNoTable h')]

theorem result_layerOf_of_unfit (hf : Unfit path document f) :
    (layerOf path document directory source).result = .error f := by
  cases hf with
  | notTable h => rw [layerOf_of_error (tableOf_of_keepsNoTable h)]
  | @notTexts t ht hb =>
    rcases texts_cases t basePathsKey with ⟨texts, hholds⟩ | ⟨-, herror⟩
    · exact absurd hholds (hb texts)
    · rw [layerOf_of_table ht, result_layer_ofTable, herror]
      rfl
  | notFlag ht hb hv hne =>
    rw [layerOf_of_table ht, result_layer_ofTable, texts?_of_holds hb, flag?_of_ne hv hne]
    rfl

/-- A document gives a layer, gives nothing, or is unfit. -/
theorem layerOf_cases (path : HostPath) (document : Table) (directory source : Option String) :
    (∃ l, (layerOf path document directory source).result = .ok l) ∨
      ∃ f, Unfit path document f := by
  rcases supplies_cases path document with ⟨_ | t, hs⟩ | hno
  · exact .inl ⟨none, by rw [layerOf_of_nothing hs]⟩
  · rcases texts_cases t basePathsKey with ⟨texts, hb⟩ | ⟨hb, -⟩
    · rcases flag_cases t verboseKey with ⟨flag, hv⟩ | ⟨v, hv, hne⟩
      · rw [layerOf_of_table hs, result_layer_ofTable, texts?_of_holds hb, flag?_of_holds hv]
        exact .inl ⟨_, rfl⟩
      · exact .inr ⟨_, .notFlag hs hb hv hne⟩
    · exact .inr ⟨_, .notTexts hs hb⟩
  · exact .inr ⟨_, .notTable hno⟩

theorem result_layerOf_eq_error_iff :
    (layerOf path document directory source).result = .error f ↔ Unfit path document f := by
  refine ⟨fun h => ?_, result_layerOf_of_unfit⟩
  rcases layerOf_cases path document directory source with ⟨l, hl⟩ | ⟨g, hg⟩
  · rw [h] at hl
    cases hl
  · have hg' : (layerOf path document directory source).result = .error g :=
      result_layerOf_of_unfit hg
    obtain rfl := Except.error.inj (h.symm.trans hg')
    exact hg

theorem events_layerOf_of_no_table (h : ∀ t, ¬ Supplies path document (some t)) :
    (layerOf path document directory source).events = [] := by
  rcases supplies_cases path document with ⟨_ | t, hs⟩ | hno
  · rw [layerOf_of_nothing hs]
  · exact absurd hs (h t)
  · rw [layerOf_of_error (tableOf_of_keepsNoTable hno)]

/-- **Two keys make the layer.** Documents that say the same at them give the same layer, or fail
the same way, whatever else they hold. A layer fails to be made just for the reasons there are, the
base directories before the flag. All other keys of the table have been warned of by then, each as
often as it is there, in order. -/
theorem layerOf_known_keys (path : HostPath) (directory source : Option String) :
    (∀ document document', SameSource path document document' →
      (layerOf path document directory source).result =
        (layerOf path document' directory source).result) ∧
    (∀ document f,
      (layerOf path document directory source).result = .error f ↔ Unfit path document f) ∧
    (∀ document t, Supplies path document (some t) → ∃ keys : List String,
      keys.Perm (t.keys.filter fun k => k ≠ verboseKey ∧ k ≠ basePathsKey) ∧
      keys.Pairwise (· ≤ ·) ∧ (t.keys.Nodup → keys.Pairwise (· < ·)) ∧
      (layerOf path document directory source).events = keys.map (unknownWarning source)) ∧
    ∀ document, (∀ t, ¬ Supplies path document (some t)) →
      (layerOf path document directory source).events = [] := by
  refine ⟨fun _ _ => result_layerOf_congr, fun _ _ => result_layerOf_eq_error_iff,
    fun document t ht => ⟨unknownKeys t, unknownKeys_perm t, pairwise_unknownKeys t,
      strict_unknownKeys, ?_⟩, fun _ => events_layerOf_of_no_table⟩
  rw [layerOf_of_table ht]

/-- A project file with two wrong values: the other keys are warned of, and the base directories are
what it fails for, with or without those keys. -/
theorem layerOf_known_keys_of_wrong_values :
    let table : Table := [("zeta", .int 1), ("verbose", .str "yes"), ("base_paths", .str "src"),
      ("alpha", .bool true)]
    let bare : Table := [("base_paths", .str "src"), ("verbose", .str "yes")]
    let document : Table := [("project", .dict []), ("tool", .dict [("tcinspect", .dict table)])]
    let document' : Table := [("tool", .dict [("black", .int 1), ("tcinspect", .dict bare)])]
    let path : HostPath := ⟨0, ["pyproject.toml"]⟩
    (layerOf path document none none).events =
      ["alpha", "zeta"].map (unknownWarning none) ∧
    (layerOf path document none none).result = .error (.notTexts basePathsKey) ∧
    (layerOf path document' none none).result = .error (.notTexts basePathsKey) := by
  intro table bare document document' path
  have hs : Supplies path document (some table) := .part rfl rfl rfl
  have hs' : Supplies path document' (some bare) := .part rfl rfl rfl
  have hb : ∀ texts, ¬ HoldsTexts table basePathsKey texts := by
    intro texts h
    cases texts <;> cases h
  obtain ⟨hcongr, hfails, hwarns, -⟩ := layerOf_known_keys path none none
  have hresult := (hfails document _).2 (.notTexts hs hb)
  obtain ⟨keys, hperm, -, hstrict, hevents⟩ := hwarns document table hs
  have hkeys : keys = ["alpha", "zeta"] :=
    (hperm.trans (by decide)).eq_of_pairwise
      (fun a b _ _ h h' => absurd h' (lt_asymm h)) (hstrict (by decide)) (by decide)
  refine ⟨by rw [hevents, hkeys], hresult, ?_⟩
  rw [← hcongr _ _ (.tables hs hs' rfl rfl), hresult]

end Settings

end InspectionFeed
