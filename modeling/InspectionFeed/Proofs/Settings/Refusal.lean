/-
Which files are refused in a way that is foreseen. A file that cannot be read,
a text that is no TOML and a value of the wrong type are faults of the
configuration. Three kinds of file are refused with a fault of another kind:
one whose path can name nothing, one that is not UTF-8, and one whose text is
TOML line by line but defines something twice (`Escapes`).

Building settings fails with the fault of the first file that is refused, or
before that, when looking for files fails (`load_cases`).
-/
import InspectionFeed.Proofs.Settings.Layering

namespace InspectionFeed.Settings

/-- A fault that is told as one of the configuration. -/
def Fault.isConfiguration : Fault → Bool
  | .host _ => false
  | .document (.unreadable _ _) => true
  | .document .unnameable => false
  | .document (.undecodable _) => false
  | .document (.content _ fault) => decide (fault = .malformed)
  | .table _ => true

/-- A file that is refused, but not with a fault of the configuration. -/
inductive Escapes (h : Host) (path : HostPath) : Prop
  | unnameable {place : Option String} (hr : h.read path = .error ⟨.unnameable, place⟩)
  | undecodable {bytes : List UInt8} {fault : Text.Utf8.Fault} (hr : h.read path = .ok bytes)
    (hd : Text.Utf8.decode bytes = .error fault)
  | contradictory {bytes : List UInt8} {text : List Char} {fault : Toml.Lenient.Fault}
    (hr : h.read path = .ok bytes) (hd : Text.Utf8.decode bytes = .ok text)
    (ht : Document.ofText text = .error fault) (hne : fault ≠ .malformed)

variable {h : Host} {path : HostPath} {document : Table} {files : Option (List HostPath)}
  {o : Option Overrides} {directory : HostPath} {fault : Fault}

/-! ## One file -/

/-- Bytes, text and document are made one after another; a file has a document, or one of the
steps fails. -/
theorem ofFile_cases (h : Host) (path : HostPath) :
    (∃ f, h.read path = .error f ∧
      Document.ofFile h path = .error (Document.Fault.ofHost path.text f)) ∨
    (∃ bytes f, h.read path = .ok bytes ∧ Text.Utf8.decode bytes = .error f ∧
      Document.ofFile h path = .error (.undecodable f)) ∨
    (∃ bytes text f, h.read path = .ok bytes ∧ Text.Utf8.decode bytes = .ok text ∧
      Document.ofText text = .error f ∧
      Document.ofFile h path = .error (.content path.text f)) ∨
    ∃ document, Document.ofFile h path = .ok document := by
  unfold Document.ofFile
  cases hr : h.read path with
  | error f => exact .inl ⟨f, rfl, rfl⟩
  | ok bytes =>
    cases hd : Text.Utf8.decode bytes with
    | error f =>
      refine .inr (.inl ⟨bytes, f, rfl, hd, ?_⟩)
      simp only [Except.mapError, bind, Except.bind, hd]
    | ok text =>
      cases ht : Document.ofText text with
      | error f =>
        refine .inr (.inr (.inl ⟨bytes, text, f, rfl, hd, ht, ?_⟩))
        simp only [Except.mapError, bind, Except.bind, hd, ht]
      | ok document =>
        refine .inr (.inr (.inr ⟨document, ?_⟩))
        simp only [Except.mapError, bind, Except.bind, hd, ht]

theorem isConfiguration_ofHost {f : Host.Fault} (hc : f.cause ≠ .unnameable) :
    (Fault.document (Document.Fault.ofHost path.text f)).isConfiguration = true := by
  rw [Document.Fault.ofHost, if_neg hc]
  rfl

/-- The files that escape are those whose document fails with a fault that is none of the
configuration. -/
theorem escapes_iff (h : Host) (path : HostPath) :
    Escapes h path ↔
      ∃ f, Document.ofFile h path = .error f ∧ (Fault.document f).isConfiguration = false := by
  constructor
  · intro escapes
    cases escapes with
    | unnameable hr =>
      refine ⟨.unnameable, ?_, rfl⟩
      simp only [Document.ofFile, hr, Except.mapError]
      rfl
    | @undecodable bytes fault hr hd =>
      refine ⟨.undecodable fault, ?_, rfl⟩
      simp only [Document.ofFile, hr, hd, Except.mapError, bind, Except.bind]
    | @contradictory bytes text fault hr hd ht hne =>
      refine ⟨.content path.text fault, ?_, decide_eq_false hne⟩
      simp only [Document.ofFile, hr, hd, ht, Except.mapError, bind, Except.bind]
  · rintro ⟨f, hf, hc⟩
    rcases ofFile_cases h path with ⟨g, hr, hg⟩ | ⟨bytes, g, hr, hd, hg⟩ |
      ⟨bytes, text, g, hr, hd, ht, hg⟩ | ⟨document, hg⟩
    · obtain rfl := Except.error.inj (hg.symm.trans hf)
      obtain ⟨cause, place⟩ := g
      by_cases hcause : cause = .unnameable
      · subst hcause
        exact .unnameable hr
      · rw [isConfiguration_ofHost hcause] at hc
        cases hc
    · exact .undecodable hr hd
    · obtain rfl := Except.error.inj (hg.symm.trans hf)
      exact .contradictory hr hd ht (of_decide_eq_false hc)
    · rw [hg] at hf
      cases hf

theorem not_escapes_of_document (hd : Document.ofFile h path = .ok document) :
    ¬ Escapes h path := by
  rw [escapes_iff, hd]
  rintro ⟨f, hf, -⟩
  cases hf

/-- The fault of a refused file is one of the configuration just when the file does not escape. -/
theorem isConfiguration_iff_of_refuses (hf : Refuses h path fault) :
    fault.isConfiguration = true ↔ ¬ Escapes h path := by
  cases hf with
  | @document f hd =>
    rw [escapes_iff, hd]
    constructor
    · rintro hc ⟨g, hg, hn⟩
      cases Except.error.inj hg
      rw [hc] at hn
      cases hn
    · intro hn
      by_contra hc
      exact hn ⟨f, rfl, Bool.not_eq_true _ ▸ hc⟩
  | notTable hd => exact iff_of_true rfl (not_escapes_of_document hd)
  | notTexts hd => exact iff_of_true rfl (not_escapes_of_document hd)
  | notFlag hd => exact iff_of_true rfl (not_escapes_of_document hd)

/-! ## All files -/

/-- These are the files that settings are built from: those that were given, or those that are
found where none were. -/
def Uses (h : Host) (files : Option (List HostPath)) (directory : HostPath)
    (used : List HostPath) : Prop :=
  files = some used ∨ files = none ∧ filesIn h directory = .ok used

/-- Why settings cannot be built: looking for files fails, or a file is refused. -/
inductive Stops (h : Host) (files : Option (List HostPath)) (directory : HostPath) : Fault → Prop
  | looking {f : Host.Fault} (hn : files = none) (hf : filesIn h directory = .error f) :
    Stops h files directory (.host f)
  | file {used : List HostPath} {path : HostPath} {fault : Fault}
    (hu : Uses h files directory used) (hf : FirstRefused h used path fault) :
    Stops h files directory fault

theorem result_load_of_uses {used : List HostPath} (hu : Uses h files directory used) :
    (load h files o directory).result = (load h (some used) o directory).result := by
  rcases hu with rfl | ⟨rfl, hf⟩
  · rfl
  · rw [result_load_none, hf]
    rfl

theorem load_cases_of_uses {used : List HostPath} (hu : Uses h files directory used)
    (o : Option Overrides) :
    (∃ s, (load h files o directory).result = .ok s) ∨
      ∃ fault, (load h files o directory).result = .error fault ∧
        Stops h files directory fault := by
  rw [result_load_of_uses hu]
  rcases says_or_firstRefused h used with ⟨said, hs⟩ | ⟨path, fault, hf⟩
  · exact .inl ⟨_, result_load_of_said hs o directory⟩
  · exact .inr ⟨fault, result_load_of_firstRefused hf o directory, .file hu hf⟩

/-- Building settings gives settings or fails for one of the reasons to stop. -/
theorem load_cases (h : Host) (files : Option (List HostPath)) (o : Option Overrides)
    (directory : HostPath) :
    (∃ s, (load h files o directory).result = .ok s) ∨
      ∃ fault, (load h files o directory).result = .error fault ∧
        Stops h files directory fault := by
  cases files with
  | some used => exact load_cases_of_uses (.inl rfl) o
  | none =>
    cases hf : filesIn h directory with
    | ok used => exact load_cases_of_uses (.inr ⟨rfl, hf⟩) o
    | error f =>
      refine .inr ⟨.host f, ?_, .looking rfl hf⟩
      rw [result_load_none, hf]
      rfl

end InspectionFeed.Settings
