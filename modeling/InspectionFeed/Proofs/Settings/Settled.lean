/-
Base directories in settings. Each one has been anchored to the directory of the
file that names it or, where the caller gives it, to the working directory, and so
it is settled (`isSettled_load`): every layer keeps this, and so does putting one
over another. Settled directories no longer depend on any directory, so settings may
be thawed, merged, and given as overrides elsewhere, with the same base directories
(`basePaths_settled`).
-/
import InspectionFeed.Proofs.Path.Settled
import InspectionFeed.Proofs.Settings.Layering

namespace InspectionFeed

/-- An absolute directory of the host, without a backslash in its path. -/
def HostPath.IsForwardDirectory (p : HostPath) : Prop := p.root ≠ 0 ∧ '\\' ∉ p.text.toList

instance (p : HostPath) : Decidable p.IsForwardDirectory := inferInstanceAs (Decidable (_ ∧ _))

/-- All base directories that the layer says are settled. -/
def Layer.IsSettled (l : Layer) : Prop := ∀ paths ∈ l.basePaths, ∀ b ∈ paths, Path.IsSettled b

namespace Settings

/-- The directory that the base directories in a file are anchored to. -/
def directoryOf (h : Host) (path : HostPath) : HostPath := path.parent.absoluteIn h.directory

/-- What the files say, before anything is put over it. -/
def fileLayer (h : Host) (files : Option (List HostPath)) (directory : HostPath) :
    Except Fault Layer :=
  match files with
  | some used => (addFiles h .empty used).result
  | none => (filesIn h directory).mapError .host >>= fun used => (addFiles h .empty used).result

end Settings

variable {h : Host} {path directory : HostPath} {files : List HostPath} {a b below l : Layer}
  {paths : List String}

/-! ## Directories of the host -/

theorem HostPath.IsForwardDirectory.text (hd : directory.IsForwardDirectory) :
    Path.IsForwardDirectory directory.text := by
  obtain ⟨hroot, hbackslash⟩ := hd
  refine ⟨?_, hbackslash⟩
  obtain ⟨n, hn⟩ := Nat.exists_eq_succ_of_ne_zero hroot
  simp [HostPath.text, hn, List.replicate_succ]

/-! ## Layers -/

theorem Path.map_anchor_of_isSettled (hp : ∀ b ∈ paths, IsSettled b) (directory : String) :
    paths.map (anchor directory) = paths := by
  have hself : paths.map (anchor directory) = paths.map id :=
    List.map_congr_left fun b hb => (hp b hb).anchor_eq directory
  rw [hself, List.map_id]

namespace Layer

theorem isSettled_empty : empty.IsSettled := nofun

theorem IsSettled.merge (ha : a.IsSettled) (hb : b.IsSettled) : (a.merge b).IsSettled := by
  intro paths hpaths
  rcases Option.or_eq_some_iff.1 hpaths with habove | ⟨-, hbelow⟩
  · exact hb paths habove
  · exact ha paths hbelow

theorem IsSettled.freeze (hl : l.IsSettled) : ∀ b ∈ l.freeze.basePaths, Path.IsSettled b := by
  intro b hb
  cases hpaths : l.basePaths with
  | none => simp [Layer.freeze, hpaths] at hb
  | some paths =>
    simp only [Layer.freeze, hpaths, Option.getD_some] at hb
    exact hl paths hpaths b hb

end Layer

namespace Settings

theorem isSettled_overrides (hd : directory.IsForwardDirectory) (o : Overrides) :
    (o.layer directory).IsSettled := by
  intro paths hpaths b hb
  obtain ⟨verbose, _ | _ | ⟨path, given⟩⟩ := o
  · cases hpaths
  · cases hpaths
  · cases hpaths
    obtain ⟨raw, -, rfl⟩ := List.mem_map.1 hb
    exact Path.isSettled_anchor hd.text raw

theorem isSettled_source {s : Source} (hd : (s.directory h).IsForwardDirectory) :
    (s.layer h).IsSettled := by
  intro paths hpaths b hb
  obtain ⟨given, -, rfl⟩ := Option.map_eq_some_iff.1 hpaths
  obtain ⟨raw, -, rfl⟩ := List.mem_map.1 hb
  exact Path.isSettled_anchor hd.text raw

/-! ## Files -/

theorem Says.path_eq {s : Source} (hs : Says h path (some s)) : s.path = path := by
  cases hs
  rfl

/-- A file adds settled base directories, or none. -/
theorem isSettled_ofFile (hd : (directoryOf h path).IsForwardDirectory)
    (hl : (Layer.ofFile h path).result = .ok (some l)) : l.IsSettled := by
  rcases says_or_refuses h path with ⟨s, hs⟩ | ⟨f, hf⟩
  · rw [result_ofFile_of_said hs, Except.ok.injEq, Option.map_eq_some_iff] at hl
    obtain ⟨source, rfl, rfl⟩ := hl
    refine isSettled_source ?_
    rw [Source.directory, hs.path_eq]
    exact hd
  · rw [result_ofFile_of_refuses hf] at hl
    cases hl

/-- So do many files, one over another. -/
theorem isSettled_addFiles (hb : below.IsSettled)
    (hd : ∀ path ∈ files, (directoryOf h path).IsForwardDirectory)
    (hl : (addFiles h below files).result = .ok l) : l.IsSettled := by
  induction files generalizing below with
  | nil =>
    cases hl
    exact hb
  | cons path files ih =>
    have hrest : ∀ path ∈ files, (directoryOf h path).IsForwardDirectory :=
      fun path hpath => hd path (List.mem_cons_of_mem _ hpath)
    cases hfile : (Layer.ofFile h path).result with
    | error fault =>
      rw [result_addFiles_cons_error hfile] at hl
      cases hl
    | ok above =>
      rw [result_addFiles_cons hfile] at hl
      cases above with
      | none => exact ih hb hrest hl
      | some above =>
        have habove := isSettled_ofFile (hd path List.mem_cons_self) hfile
        exact ih (hb.merge habove) hrest hl

/-- A file that is found in a directory is anchored to that directory. -/
theorem directoryOf_child (hd : directory.root ≠ 0) (h : Host) (name : String) :
    directoryOf h (directory.child name) = directory := by
  simp [directoryOf, HostPath.child, HostPath.parent, HostPath.absoluteIn, hd]

theorem isSettled_fileLayer {files : Option (List HostPath)} (hd : directory.IsForwardDirectory)
    (hfiles : ∀ path ∈ files.getD [], (directoryOf h path).IsForwardDirectory)
    (hl : fileLayer h files directory = .ok l) : l.IsSettled := by
  cases files with
  | some used => exact isSettled_addFiles Layer.isSettled_empty hfiles hl
  | none =>
    cases hf : filesIn h directory with
    | error f =>
      rw [fileLayer, hf] at hl
      cases hl
    | ok found =>
      rw [fileLayer, hf] at hl
      refine isSettled_addFiles Layer.isSettled_empty (fun path hpath => ?_) hl
      have hchild : ∃ name, path = directory.child name := by
        rw [filesIn_eq hf, List.mem_filter] at hpath
        rcases List.mem_pair.1 hpath.1 with rfl | rfl
        · exact ⟨_, rfl⟩
        · exact ⟨_, rfl⟩
      obtain ⟨name, rfl⟩ := hchild
      rw [directoryOf_child hd.1]
      exact hd

/-! ## Settings -/

theorem result_load (h : Host) (files : Option (List HostPath)) (o : Option Overrides)
    (directory : HostPath) :
    (load h files o directory).result =
      (fileLayer h files directory).map fun l => (overlay directory o l).freeze := by
  cases files with
  | some used => exact result_load_some h used o directory
  | none =>
    rw [result_load_none, fileLayer]
    cases filesIn h directory with
    | error f => rfl
    | ok found => exact result_load_some h found o directory

theorem isSettled_overlay (hl : l.IsSettled) (hd : directory.IsForwardDirectory)
    (o : Option Overrides) : (overlay directory o l).IsSettled := by
  cases o with
  | none => exact hl
  | some o => exact hl.merge (isSettled_overrides hd o)

/-- All base directories in settings are settled. -/
theorem isSettled_load {files : Option (List HostPath)} {o : Option Overrides} {s : Settings}
    (hd : directory.IsForwardDirectory)
    (hfiles : ∀ path ∈ files.getD [], (directoryOf h path).IsForwardDirectory)
    (hs : (load h files o directory).result = .ok s) : ∀ b ∈ s.basePaths, Path.IsSettled b := by
  rw [result_load] at hs
  cases hl : fileLayer h files directory with
  | error fault =>
    rw [hl] at hs
    cases hs
  | ok l =>
    rw [hl] at hs
    cases hs
    exact (isSettled_overlay (isSettled_fileLayer hd hfiles hl) hd o).freeze

/-- Settled base directories that are given as overrides are taken as they are, over whatever the
files say; none at all leave the files their say. -/
theorem basePaths_overlay (hp : ∀ b ∈ paths, Path.IsSettled b) (verbose : Option Bool)
    (directory : HostPath) (l : Layer) :
    (overlay directory (some ⟨verbose, some paths⟩) l).freeze.basePaths =
      if paths = [] then l.freeze.basePaths else paths := by
  cases paths with
  | nil => simp [overlay, Overrides.layer, Layer.merge, Layer.freeze]
  | cons b bs =>
    have hself := Path.map_anchor_of_isSettled hp directory.text
    simp only [overlay, Overrides.layer, Layer.merge, Layer.freeze, Option.elim_some, hself,
      Option.some_or, Option.getD_some, reduceCtorEq, if_false]

/-- Where settled base directories are given as overrides, building settings fails as it does
without them, or the base directories are those. -/
theorem basePaths_load (hp : ∀ b ∈ paths, Path.IsSettled b) (h : Host)
    (files : Option (List HostPath)) (verbose : Option Bool) (directory : HostPath) :
    (load h files (some ⟨verbose, some paths⟩) directory).result.map Settings.basePaths =
      (load h files none directory).result.map fun s =>
        if paths = [] then s.basePaths else paths := by
  rw [result_load, result_load]
  cases fileLayer h files directory with
  | error fault => rfl
  | ok l => exact congrArg Except.ok (basePaths_overlay hp verbose directory l)

/-- **Base directories are settled once.** The absolute paths without a backslash are just those
that are the same wherever they are anchored, and below an absolute directory without a backslash
anchoring gives no others. So all base directories of settings that are built from files and
overrides in such directories are settled. They stay as they are when the settings are thawed, when
layers are put over them or below them, and when they are given as overrides in any other
directory, of any host. -/
theorem basePaths_settled :
    (∀ path, Path.IsSettled path ↔ ∀ other, Path.anchor other path = path) ∧
    (∀ base raw, Path.IsForwardDirectory base →
      Path.IsSettled (Path.anchor base raw) ∧
        ∀ other, Path.anchor other (Path.anchor base raw) = Path.anchor base raw) ∧
    ∀ (h : Host) (files : Option (List HostPath)) (o : Option Overrides) (directory : HostPath)
      (s : Settings), directory.IsForwardDirectory →
      (∀ path ∈ files.getD [], (directoryOf h path).IsForwardDirectory) →
      (load h files o directory).result = .ok s →
      (∀ b ∈ s.basePaths, Path.IsSettled b ∧ ∀ other, Path.anchor other b = b) ∧
      s.thaw.basePaths = some s.basePaths ∧
      (∀ above : Layer,
        (s.thaw.merge above).freeze.basePaths = above.basePaths.getD s.basePaths) ∧
      (∀ below : Layer, (below.merge s.thaw).freeze.basePaths = s.basePaths) ∧
      ∀ (h' : Host) (files' : Option (List HostPath)) (verbose : Option Bool)
        (directory' : HostPath),
        (load h' files' (some ⟨verbose, some s.basePaths⟩) directory').result.map
            Settings.basePaths =
          (load h' files' none directory').result.map fun t =>
            if s.basePaths = [] then t.basePaths else s.basePaths := by
  refine ⟨fun path => Path.isSettled_iff, fun base raw hbase => ?_,
    fun h files o directory s hd hfiles hs => ?_⟩
  · have hsettled := Path.isSettled_anchor hbase raw
    exact ⟨hsettled, hsettled.anchor_eq⟩
  · have hsettled := isSettled_load hd hfiles hs
    refine ⟨fun b hb => ⟨hsettled b hb, (hsettled b hb).anchor_eq⟩, rfl, fun above => ?_,
      fun below => rfl, basePaths_load hsettled⟩
    cases habove : above.basePaths <;> simp [Layer.freeze, Layer.merge, Settings.thaw, habove]

/-- Base directories of every kind in a file, with backslashes: one that climbs, a drive, a drive
without its root, a share, and none. -/
theorem mixed_basePaths_settled :
    let text := "base_paths = ['..\\lib\\', 'C:\\src', 'c:src', '\\\\host\\a', '']\n"
    let h := FileTree.host
      ⟨[(["w", "x", "tcinspect.toml"], .file (Text.asciiBytes text.toList))]⟩ ["w", "x"]
    let elsewhere := FileTree.host ⟨[]⟩ ["v\\"]
    let s : Settings :=
      ⟨false, ["/w/lib", "C:/src", "/w/x/c:src", "//host/a", "/w/x"], ["/w/x/tcinspect.toml"]⟩
    Path.anchor "/w/x" "..\\lib\\" = "/w/lib" ∧ Path.anchor "/v\\" "/w/lib" = "/w/lib" ∧
      (load h none none h.directory).result = .ok s ∧
      (∀ b ∈ s.basePaths, Path.IsSettled b ∧ ∀ other, Path.anchor other b = b) ∧
      (load elsewhere (some []) (some ⟨none, some s.basePaths⟩) elsewhere.directory).result.map
        Settings.basePaths = .ok s.basePaths := by
  intro text h elsewhere s
  have hlib : Path.anchor "/w/x" "..\\lib\\" = "/w/lib" := by decide +kernel
  have hs : (load h none none h.directory).result = .ok s := by decide +kernel
  obtain ⟨-, hanchor, hload⟩ := basePaths_settled
  obtain ⟨-, hother⟩ := hanchor "/w/x" "..\\lib\\" (by decide +kernel)
  obtain ⟨hsettled, -, -, -, hoverrides⟩ :=
    hload h none none h.directory s (by decide +kernel) nofun hs
  refine ⟨hlib, ?_, hs, hsettled, ?_⟩
  · rw [hlib] at hother
    exact hother "/v\\"
  · rw [hoverrides]
    rfl

end Settings

end InspectionFeed
