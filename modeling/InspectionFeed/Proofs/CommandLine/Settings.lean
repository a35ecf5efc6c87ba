/-
How a run ends when its settings cannot be built. Nothing is written. A fault
of the configuration has the code 78; a file that is refused otherwise, and a
failure to look for files, end the run with a fault that is not foreseen.
-/
import InspectionFeed.CommandLine.Run
import InspectionFeed.Host.FileTree
import InspectionFeed.Proofs.Settings.Refusal
import InspectionFeed.Proofs.Text.Ascii

namespace InspectionFeed.CommandLine

theorem code?_settings (fault : Settings.Fault) :
    (Fault.settings fault).code? = if fault.isConfiguration then some 78 else none := by
  match fault with
  | .host _ => rfl
  | .document (.unreadable _ _) => rfl
  | .document .unnameable => rfl
  | .document (.undecodable _) => rfl
  | .document (.content _ f) => cases f <;> rfl
  | .table _ => rfl

theorem result_settings (h : Host) (said : List Use) :
    (settings h said).result =
      (Settings.load h (configFiles said) (some (overrides said)) h.directory).result.mapError
        .settings := rfl

/-- Whatever a command does but show the version, it settles its settings first. -/
theorem run_of_settings_error {h : Host} {i : Invocation} {a : Arguments Use} {c : Command}
    {fault : Fault} (hc : c ≠ .version) (hs : (settings h a.said).result = .error fault) :
    (c.run h i a).output = "" ∧ (c.run h i a).fault = some fault := by
  cases c with
  | emit =>
    rw [Command.run, runEmit, Work.after_of_error hs]
    exact ⟨rfl, rfl⟩
  | inspectionTypes =>
    rw [Command.run, runInspectionTypes, Work.after_of_error hs]
    exact ⟨rfl, rfl⟩
  | version => exact absurd rfl hc

/-- **When settings that cannot be built are told as a fault of the configuration.** Settings are
built, or a reason to stop is given. A file that is refused is such a reason of the configuration
just when it does not escape; a failure to look for files never is one. Either way a run that needs
the settings writes nothing, and its code is 78 just when the fault is one of the configuration. -/
theorem settings_fault_told_iff (h : Host) (files : Option (List HostPath))
    (o : Option Settings.Overrides) (directory : HostPath) :
    (∃ s, (Settings.load h files o directory).result = .ok s) ∨
    ∃ fault, (Settings.load h files o directory).result = .error fault ∧
      ((∃ f, files = none ∧ Settings.filesIn h directory = .error f ∧ fault = .host f ∧
          fault.isConfiguration = false) ∨
        ∃ used path, Settings.Uses h files directory used ∧
          Settings.FirstRefused h used path fault ∧
          (fault.isConfiguration = true ↔ ¬ Settings.Escapes h path)) ∧
      ∀ (c : Command) (i : Invocation) (a : Arguments Use), c ≠ .version →
        configFiles a.said = files → some (overrides a.said) = o → h.directory = directory →
        (c.run h i a).output = "" ∧ (c.run h i a).fault = some (.settings fault) ∧
          (Fault.settings fault).code? = if fault.isConfiguration then some 78 else none := by
  rcases Settings.load_cases h files o directory with hok | ⟨fault, hf, hstops⟩
  · exact .inl hok
  · refine .inr ⟨fault, hf, ?_, ?_⟩
    · cases hstops with
      | looking hn hlook => exact .inl ⟨_, hn, hlook, rfl, rfl⟩
      | @file used path fault hu hrefused =>
        obtain ⟨-, -, -, -, hrefuses⟩ := id hrefused
        exact .inr ⟨used, path, hu, hrefused,
          Settings.isConfiguration_iff_of_refuses hrefuses⟩
    · rintro c i a hc rfl rfl rfl
      have hs : (settings h a.said).result = .error (.settings fault) := by
        rw [result_settings, hf]
        rfl
      obtain ⟨houtput, hfault⟩ := run_of_settings_error (i := i) hc hs
      exact ⟨houtput, hfault, code?_settings fault⟩

/-- A flag without a value is told: the run ends with the code 78 and writes nothing. -/
theorem malformed_settings_told :
    let h := FileTree.host ⟨[
      (["w", "tcinspect.toml"], .file (Text.asciiBytes "verbose = \n".toList))]⟩ ["w"]
    let i : Invocation := ⟨"tcinspect", ["emit"], none, []⟩
    let fault : Settings.Fault := .document (.content "/w/tcinspect.toml" .malformed)
    (Settings.load h none (some (overrides [])) h.directory).result = .error fault ∧
      (Command.emit.run h i ⟨[], []⟩).output = "" ∧
      (Command.emit.run h i ⟨[], []⟩).fault = some (.settings fault) ∧
      (Fault.settings fault).code? = some 78 := by
  intro h i fault
  have hload : (Settings.load h none (some (overrides [])) h.directory).result = .error fault := by
    decide +kernel
  rcases settings_fault_told_iff h none (some (overrides [])) h.directory with
    ⟨s, hs⟩ | ⟨fault', hf, -, hrun⟩
  · rw [hload] at hs
    cases hs
  · obtain rfl := Except.error.inj (hload.symm.trans hf)
    obtain ⟨houtput, hfault, hcode⟩ := hrun .emit i ⟨[], []⟩ (by decide) rfl rfl rfl
    exact ⟨hload, houtput, hfault, hcode⟩

/-- A file of settings that is the byte FF is refused, but not as a fault of the configuration. -/
theorem undecodable_settings_untold :
    let h := FileTree.host ⟨[(["w", "tcinspect.toml"], .file [0xff])]⟩ ["w"]
    let fault : Settings.Fault := .document (.undecodable ⟨0, 1, 0xff, .invalidStart⟩)
    (Settings.load h none none h.directory).result = .error fault ∧
      fault.isConfiguration = false ∧
      (run h ⟨"tcinspect", ["emit"], none, []⟩).fault = some (.settings fault) ∧
      (Fault.settings fault).code? = none := by
  decide +kernel

end InspectionFeed.CommandLine
