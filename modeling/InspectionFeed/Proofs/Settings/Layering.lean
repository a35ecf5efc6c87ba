/-
Settings from several files. Of the files that say something about a setting
the last one decides; what the caller overrides goes over all of them, and an
empty list of base directories overrides nothing but hides those of earlier
files. The files that are named as sources are those that have a table
(`layered`).

Files are read in order, and the first that is refused ends the reading. Where
no files are given, the project file comes before the file of settings.
-/
import InspectionFeed.Host.FileTree
import InspectionFeed.Proofs.Settings.Source
import InspectionFeed.Proofs.Text.Ascii
import Mathlib.Data.List.Forall2
import Mathlib.Data.List.ReduceOption

namespace InspectionFeed

/-! ## Layers one over another -/

namespace Layer

/-- Of many layers over one, the last that says something about a setting decides. -/
theorem getLast?_foldl_merge {α : Type} (setting : Layer → Option α)
    (hmerge : ∀ below above, setting (below.merge above) = (setting above).or (setting below))
    (ls : List Layer) (below : Layer) :
    setting (ls.foldl merge below) = (ls.filterMap setting).getLast?.or (setting below) := by
  induction ls generalizing below with
  | nil => rfl
  | cons l ls ih =>
    rw [List.foldl_cons, ih, hmerge]
    cases hl : setting l with
    | none => rw [List.filterMap_cons_none hl, Option.none_or]
    | some a =>
      rw [List.filterMap_cons_some hl, List.getLast?_cons]
      cases (ls.filterMap setting).getLast? <;> rfl

theorem configFiles_foldl_merge (ls : List Layer) (below : Layer) :
    (ls.foldl merge below).configFiles = below.configFiles ++ ls.flatMap configFiles := by
  induction ls generalizing below with
  | nil => exact (List.append_nil _).symm
  | cons l ls ih =>
    rw [List.foldl_cons, ih, List.flatMap_cons, ← List.append_assoc]
    rfl

end Layer

namespace Settings

/-- The overrides of a caller who says nothing. -/
def Overrides.nothing : Overrides := ⟨none, none⟩

/-- What sources and overrides come to. -/
def layered (h : Host) (sources : List Source) (o : Overrides) (directory : HostPath) :
    Settings where
  verbose := (o.verbose.or (sources.filterMap Source.verbose).getLast?).getD false
  basePaths := match o.basePaths.getD [] with
    | [] => (sources.filterMap (Source.anchored h)).getLast?.getD []
    | given => given.map (Path.anchor directory.text)
  configFiles := sources.map (·.path.text)

/-- The layer with overrides over it, if there are any. -/
def overlay (directory : HostPath) (o : Option Overrides) (l : Layer) : Layer :=
  o.elim l fun o => l.merge (o.layer directory)

variable {h : Host} {path : HostPath} {files before : List HostPath}
  {said : List (Option Source)} {fault : Fault}

/-! ## Files in order -/

theorem result_addFiles_cons {l : Option Layer} (hl : (Layer.ofFile h path).result = .ok l)
    (below : Layer) (files : List HostPath) :
    (addFiles h below (path :: files)).result =
      (addFiles h (l.elim below below.merge) files).result := by
  rw [addFiles, Logged.result_bind, hl]
  cases l <;> rfl

theorem result_addFiles_cons_error (hf : (Layer.ofFile h path).result = .error fault)
    (below : Layer) (files : List HostPath) :
    (addFiles h below (path :: files)).result = .error fault := by
  rw [addFiles, Logged.result_bind, hf]
  rfl

/-- Files that all say something are put over a layer in order. -/
theorem result_addFiles (hs : List.Forall₂ (Says h) before said) (below : Layer)
    (after : List HostPath) :
    (addFiles h below (before ++ after)).result =
      (addFiles h ((said.reduceOption.map (Source.layer h)).foldl Layer.merge below)
        after).result := by
  induction hs generalizing below with
  | nil => rfl
  | @cons path s files said hsource _ ih =>
    rw [List.cons_append, result_addFiles_cons (result_ofFile_of_said hsource), ih]
    cases s <;> rfl

/-- The first of the files that is refused, and why. -/
def FirstRefused (h : Host) (files : List HostPath) (path : HostPath) (fault : Fault) : Prop :=
  ∃ before after, files = before ++ path :: after ∧
    (∃ said, List.Forall₂ (Says h) before said) ∧ Refuses h path fault

theorem result_addFiles_of_firstRefused (hf : FirstRefused h files path fault) (below : Layer) :
    (addFiles h below files).result = .error fault := by
  obtain ⟨before, after, rfl, ⟨said, hs⟩, hf⟩ := hf
  rw [result_addFiles hs, result_addFiles_cons_error (result_ofFile_of_refuses hf)]

/-- All files say something, or there is a first one that is refused. -/
theorem says_or_firstRefused (h : Host) (files : List HostPath) :
    (∃ said, List.Forall₂ (Says h) files said) ∨ ∃ path fault, FirstRefused h files path fault := by
  induction files with
  | nil => exact .inl ⟨[], .nil⟩
  | cons path files ih =>
    rcases says_or_refuses h path with ⟨s, hs⟩ | ⟨fault, hf⟩
    · rcases ih with ⟨said, hall⟩ | ⟨path', fault, before, after, rfl, ⟨said, hall⟩, hf⟩
      · exact .inl ⟨s :: said, .cons hs hall⟩
      · exact .inr ⟨path', fault, path :: before, after, rfl, ⟨s :: said, .cons hs hall⟩, hf⟩
    · exact .inr ⟨path, fault, [], files, rfl, ⟨[], .nil⟩, hf⟩

/-! ## Settings -/

/-- The layers of sources, one over another. -/
def stacked (h : Host) (sources : List Source) : Layer :=
  (sources.map (Source.layer h)).foldl Layer.merge .empty

theorem verbose_stacked (h : Host) (sources : List Source) :
    (stacked h sources).verbose = (sources.filterMap Source.verbose).getLast? := by
  rw [stacked, Layer.getLast?_foldl_merge Layer.verbose fun _ _ => rfl, List.filterMap_map]
  exact Option.or_none

theorem basePaths_stacked (h : Host) (sources : List Source) :
    (stacked h sources).basePaths = (sources.filterMap (Source.anchored h)).getLast? := by
  rw [stacked, Layer.getLast?_foldl_merge Layer.basePaths fun _ _ => rfl, List.filterMap_map]
  exact Option.or_none

theorem configFiles_stacked (h : Host) (sources : List Source) :
    (stacked h sources).configFiles = sources.map (·.path.text) := by
  rw [stacked, Layer.configFiles_foldl_merge, List.flatMap_map]
  exact List.map_eq_flatMap.symm

/-- Overrides go over the layers of sources; where neither says anything there are defaults. -/
theorem freeze_stacked (h : Host) (sources : List Source) (o : Overrides) (directory : HostPath) :
    ((stacked h sources).merge (o.layer directory)).freeze = layered h sources o directory := by
  rw [layered, Layer.freeze, Layer.merge, verbose_stacked, basePaths_stacked, configFiles_stacked]
  -- A list that is given is empty or not, and only one that is not says something.
  obtain ⟨verbose, _ | _ | ⟨path, paths⟩⟩ := o
  · simp [Overrides.layer]
  · simp [Overrides.layer]
  · simp [Overrides.layer]

/-- Settings are what the files say with the overrides over it, frozen. -/
theorem result_load_some (h : Host) (files : List HostPath) (o : Option Overrides)
    (directory : HostPath) :
    (load h (some files) o directory).result =
      (addFiles h .empty files).result.map fun l => (overlay directory o l).freeze := by
  rw [load, Logged.result_bind]
  show ((addFiles h .empty files) >>= _).result = _
  rw [Logged.result_bind]
  cases (addFiles h .empty files).result with
  | error fault => rfl
  | ok l => cases o <;> rfl

/-- Files that all say something give settings. -/
theorem result_load_of_said (hs : List.Forall₂ (Says h) files said) (o : Option Overrides)
    (directory : HostPath) :
    (load h (some files) o directory).result =
      .ok (layered h said.reduceOption (o.getD .nothing) directory) := by
  have hl : (addFiles h .empty files).result = .ok (stacked h said.reduceOption) := by
    have hl := result_addFiles hs .empty []
    rw [List.append_nil] at hl
    exact hl
  rw [result_load_some, hl, ← freeze_stacked]
  cases o with
  | none =>
    have hnothing (l : Layer) : l.merge (Overrides.nothing.layer directory) = l := by
      simp [Layer.merge, Overrides.layer, Overrides.nothing]
    rw [Option.getD_none, hnothing]
    rfl
  | some o => rfl

theorem result_load_of_firstRefused (hf : FirstRefused h files path fault) (o : Option Overrides)
    (directory : HostPath) : (load h (some files) o directory).result = .error fault := by
  rw [result_load_some, result_addFiles_of_firstRefused hf]
  rfl

theorem result_discover (h : Host) (directory : HostPath) :
    (discover h directory).result = filesIn h directory := by
  unfold discover
  cases filesIn h directory <;> rfl

/-- Without files given, those in the directory are. -/
theorem result_load_none (h : Host) (o : Option Overrides) (directory : HostPath) :
    (load h none o directory).result =
      (filesIn h directory).mapError Fault.host >>= fun files =>
        (load h (some files) o directory).result := by
  show ((discover h directory).mapError Fault.host >>= _).result = _
  rw [Logged.result_bind, Logged.result_mapError, result_discover]
  cases filesIn h directory <;> rfl

/-- Files that are looked for in a directory: those that are there, the project file first. -/
theorem filesIn_eq {found : List HostPath} {directory : HostPath}
    (hf : filesIn h directory = .ok found) :
    found = [directory.child projectFile, directory.child settingsFile].filter
      fun path => decide (h.isFile path = .ok true) := by
  rw [filesIn, fileNames, List.map_cons, List.map_cons, List.map_nil] at hf
  cases hp : h.isFile (directory.child projectFile) with
  | error f =>
    simp only [List.filterM, List.filterAuxM, hp] at hf
    cases hf
  | ok project =>
    cases hs : h.isFile (directory.child settingsFile) with
    | error f =>
      simp only [List.filterM, List.filterAuxM, hp, hs] at hf
      cases hf
    | ok settings =>
      simp only [List.filterM, List.filterAuxM, hp, hs] at hf
      cases project <;> cases settings <;> cases hf <;> simp [hp, hs]

/-- **The settings of several files**, with what the caller overrides. If all files say something,
the settings are those that the last of them that speaks decides, one by one, under the overrides.
Otherwise the first file that is refused is the reason for failing. Without files given, those in
the directory are taken, the project file first. -/
theorem load_eq_layered (h : Host) (o : Option Overrides) (directory : HostPath) :
    (∀ files said, List.Forall₂ (Says h) files said →
      (load h (some files) o directory).result =
        .ok (layered h said.reduceOption (o.getD .nothing) directory)) ∧
      (∀ files, (∃ said, List.Forall₂ (Says h) files said) ∨
        ∃ path fault, FirstRefused h files path fault) ∧
      (∀ files path fault, FirstRefused h files path fault →
        (load h (some files) o directory).result = .error fault) ∧
      ∀ found, filesIn h directory = .ok found →
        found = [directory.child projectFile, directory.child settingsFile].filter
          (fun path => decide (h.isFile path = .ok true)) ∧
        (load h none o directory).result = (load h (some found) o directory).result := by
  refine ⟨fun files said hs => result_load_of_said hs o directory, says_or_firstRefused h,
    fun files path fault hf => result_load_of_firstRefused hf o directory, fun found hf => ?_⟩
  refine ⟨filesIn_eq hf, ?_⟩
  rw [result_load_none, hf]
  rfl

/-- An empty list in a later file hides the list of an earlier one, and overrides it leaves alone.
The project file between them has no table and is no source. -/
theorem later_empty_list_hides :
    let h := FileTree.host ⟨[
      (["w", "a.toml"],
        .file (Text.asciiBytes "verbose = true\nbase_paths = [\"src\"]\n".toList)),
      (["w", "sub", "pyproject.toml"], .file (Text.asciiBytes "[tool.other]\n".toList)),
      (["w", "sub", "b.toml"], .file (Text.asciiBytes "base_paths = []\n".toList))]⟩ ["w"]
    let files := ["a.toml", "sub/pyproject.toml", "sub/b.toml"].map HostPath.ofString
    ∃ said, List.Forall₂ (Says h) files said ∧
      (load h (some files) (some ⟨none, some []⟩) h.directory).result =
        .ok (layered h said.reduceOption ⟨none, some []⟩ h.directory) ∧
      layered h said.reduceOption ⟨none, some []⟩ h.directory =
        ⟨true, [], ["a.toml", "sub/b.toml"]⟩ := by
  intro h files
  obtain ⟨hsource, hcases, hrefused, -⟩ := load_eq_layered h (some ⟨none, some []⟩) h.directory
  have hvalue : (load h (some files) (some ⟨none, some []⟩) h.directory).result =
      .ok ⟨true, [], ["a.toml", "sub/b.toml"]⟩ := by decide +kernel
  rcases hcases files with ⟨said, hs⟩ | ⟨path, fault, hf⟩
  · have hload := hsource files said hs
    exact ⟨said, hs, hload, Except.ok.inj (hload.symm.trans hvalue)⟩
  · have herror := hrefused files path fault hf
    rw [hvalue] at herror
    cases herror

end Settings

end InspectionFeed
