/-
The shape of records, told field by field, where a null is the same as no
field. `Describes` says which tables are records and of what; `faults` lists
what is wrong with a table, in the order in which its fields are looked at.
Reading a table gives a record just when the table describes it, fails just
when something is wrong with the table, and then with the first thing
(`ofTable_iff`).

A severity that is not known is nothing wrong. It gives the only warning there
is, whether or not something else is wrong.
-/
import InspectionFeed.Record.Basic
import Mathlib.Data.List.Forall2

namespace InspectionFeed.Record

/-- A value that describes a place. -/
inductive PlaceDescribes : Value → Location → Prop
  | place {t : Table} {file : String} {line column : Int}
    (hfile : t.present? "file" = some (.str file))
    (hline : (t.present? "line").getD (.int 0) = .int line)
    (hcolumn : (t.present? "column").getD (.int 0) = .int column) :
    PlaceDescribes (.dict t) ⟨file, line, column⟩

/-- A table that describes a finding, whatever its kind of record. -/
inductive FindingDescribes (t : Table) : Diagnostic → Prop
  | finding {kind short verbose severity file0 : String} {inconclusive : Bool} {cwe : Int}
    {places : List Value} {frames : List Location}
    (hseverity : (t.present? "severity").getD (.str "none") = .str severity)
    (hlocations : (t.present? "locations").getD (.list []) = .list places)
    (hframes : List.Forall₂ PlaceDescribes places frames)
    (hid : t.present? "id" = some (.str kind))
    (hshort : t.present? "short" = some (.str short))
    (hverbose : (t.present? "verbose").getD (.str "") = .str verbose)
    (hinconclusive : (t.present? "inconclusive").getD (.bool false) = .bool inconclusive)
    (hcwe : (t.present? "cwe").getD (.int 0) = .int cwe)
    (hfile0 : (t.present? "file0").getD (.str "") = .str file0) :
    FindingDescribes t (.make kind short verbose ((Severity.parse? severity).getD .none)
      inconclusive cwe frames file0)

/-- A table that describes a record. -/
inductive Describes (t : Table) : Record → Prop
  | message {text : String}
    (hkind : t.present? "kind" = some (.str "message"))
    (htext : t.present? "text" = some (.str text)) :
    Describes t (.message text)
  | progress {subject stage : String} {value : Int}
    (hkind : t.present? "kind" = some (.str "progress"))
    (hsubject : t.present? "subject" = some (.str subject))
    (hstage : t.present? "stage" = some (.str stage))
    (hvalue : (t.present? "value").getD (.int 0) = .int value) :
    Describes t (.progress subject stage value)
  | diagnostic {d : Diagnostic}
    (hkind : t.present? "kind" = some (.str "diagnostic"))
    (hfinding : FindingDescribes t d) :
    Describes t (.diagnostic d)

/-! ## What is wrong with a table -/

def typeFaults {α : Type} (type : FieldType α) (key : String) (v : Value) : List Fault :=
  if (type.content? v).isSome then [] else [.wrongType key type.name]

/-- What is wrong with a field that must be there. -/
def requiredFaults {α : Type} (type : FieldType α) (t : Table) (key : String) : List Fault :=
  (t.present? key).elim [.missing key] (typeFaults type key)

/-- What is wrong with a field that may be left out. -/
def optionalFaults {α : Type} (type : FieldType α) (t : Table) (key : String) : List Fault :=
  (t.present? key).elim [] (typeFaults type key)

def placeFaults : Value → List Fault
  | .dict t =>
    requiredFaults text t "file" ++ optionalFaults whole t "line" ++ optionalFaults whole t "column"
  | _ => [.placeNotTable]

/-- The values that stand for the places of a finding. -/
def places (t : Table) : List Value :=
  match t.present? "locations" with
  | some (.list vs) => vs
  | _ => []

def findingFaults (t : Table) : List Fault :=
  optionalFaults text t "severity" ++ optionalFaults items t "locations" ++
    (places t).flatMap placeFaults ++ requiredFaults text t "id" ++
    requiredFaults text t "short" ++ optionalFaults text t "verbose" ++
    optionalFaults flag t "inconclusive" ++ optionalFaults whole t "cwe" ++
    optionalFaults text t "file0"

def progressFaults (t : Table) : List Fault :=
  requiredFaults text t "subject" ++ requiredFaults text t "stage" ++
    optionalFaults whole t "value"

/-- All that is wrong with a table, in order. -/
def faults (t : Table) : List Fault :=
  requiredFaults text t "kind" ++ match t.present? "kind" with
    | some (.str "diagnostic") => findingFaults t
    | some (.str "progress") => progressFaults t
    | some (.str "message") => requiredFaults text t "text"
    | some (.str kind) => [.unknownKind kind]
    | _ => []

/-- What reading a finding warns of: a severity that is a text but names none. -/
def findingWarnings (t : Table) : List Log.Event :=
  match t.present? "severity" with
  | some (.str s) =>
    if (Severity.parse? s).isSome then []
    else [⟨.warning, "Unknown severity " ++ Text.quoted s ++ ", reporting without severity"⟩]
  | _ => []

def warnings (t : Table) : List Log.Event :=
  match t.present? "kind" with
  | some (.str "diagnostic") => findingWarnings t
  | _ => []

variable {α β : Type} {type : FieldType α} {value : α → Value} {t : Table} {key : String} {a : α}
  {x : Except Fault α} {g : α → Except Fault β} {fs gs : List Fault} {v : Value} {vs : List Value}

/-! ## Fields -/

/-- The values of that type are those with that form. -/
def FieldType.Is (type : FieldType α) (value : α → Value) : Prop :=
  ∀ v a, type.content? v = some a ↔ v = value a

theorem text_is : text.Is .str := by
  intro v s
  cases v <;> simp [text]

theorem whole_is : whole.Is .int := by
  intro v i
  cases v <;> simp [whole]

theorem flag_is : flag.Is .bool := by
  intro v b
  cases v <;> simp [flag]

theorem items_is : items.Is .list := by
  intro v vs
  cases v <;> simp [items]

theorem FieldType.Is.injective (h : type.Is value) : Function.Injective value := by
  intro a b hab
  have ha := (h (value a) a).2 rfl
  rw [(h (value a) b).2 hab] at ha
  exact (Option.some.inj ha).symm

theorem required_eq_ok_iff (h : type.Is value) :
    required type t key = .ok a ↔ t.present? key = some (value a) := by
  unfold required
  cases t.present? key with
  | none => exact iff_of_false nofun nofun
  | some v =>
    simp only [Option.some.injEq, ← h v a]
    cases type.content? v with
    | none => exact iff_of_false nofun nofun
    | some c => simp

theorem optional_eq_ok_iff (h : type.Is value) (default : α) :
    optional type t key default = .ok a ↔
      (t.present? key).getD (value default) = value a := by
  unfold optional
  cases hp : t.present? key with
  | none => simp [h.injective.eq_iff]
  | some v =>
    rw [Option.isNone_some, if_neg Bool.false_ne_true, required_eq_ok_iff h, hp]
    simp

/-! ## Failing with the first fault -/

/-- The reading fails just when there are faults, and then with the first of them. -/
def FailsWith (x : Except Fault α) (fs : List Fault) : Prop :=
  ∀ f, x = .error f ↔ fs.head? = some f

theorem failsWith_ok (a : α) : FailsWith (.ok a) [] := fun _ => iff_of_false nofun nofun

theorem failsWith_error (f : Fault) : FailsWith (.error f : Except Fault α) [f] := by
  intro f'
  simp

theorem FailsWith.eq_nil (h : FailsWith (.ok a) fs) : fs = [] := by
  cases fs with
  | nil => rfl
  | cons f fs => cases (h f).2 rfl

/-- Of two readings in a row the second one counts when the first one has no faults. -/
theorem FailsWith.bind (hx : FailsWith x fs) (hg : ∀ a, x = .ok a → FailsWith (g a) gs) :
    FailsWith (x >>= g) (fs ++ gs) := by
  cases x with
  | error e =>
    obtain ⟨fs', rfl⟩ := List.head?_eq_some_iff.1 ((hx e).1 rfl)
    intro f
    show (Except.error e : Except Fault β) = .error f ↔ some e = some f
    simp
  | ok a =>
    rw [hx.eq_nil]
    exact hg a rfl

theorem FailsWith.bind_pure (hx : FailsWith x fs) (h : α → β) :
    FailsWith (x >>= fun a => pure (h a)) fs := by
  rw [← List.append_nil fs]
  exact hx.bind fun a _ => failsWith_ok (h a)

theorem failsWith_required (type : FieldType α) (t : Table) (key : String) :
    FailsWith (required type t key) (requiredFaults type t key) := by
  unfold required requiredFaults typeFaults
  cases t.present? key with
  | none => exact failsWith_error _
  | some v =>
    cases h : type.content? v with
    | none => simpa [h] using failsWith_error _
    | some a => simpa [h] using failsWith_ok a

theorem failsWith_optional (type : FieldType α) (t : Table) (key : String) (default : α) :
    FailsWith (optional type t key default) (optionalFaults type t key) := by
  have hrequired := failsWith_required type t key
  unfold optional optionalFaults
  unfold requiredFaults at hrequired
  cases hp : t.present? key with
  | none => exact failsWith_ok default
  | some v => rwa [hp] at hrequired

/-! ## Places -/

theorem bind_eq_ok_iff {b : β} : x >>= g = .ok b ↔ ∃ a, x = .ok a ∧ g a = .ok b := by
  cases x with
  | error f => exact iff_of_false nofun fun ⟨_, ha, _⟩ => nomatch ha
  | ok a => exact ⟨fun h => ⟨a, rfl, h⟩, fun ⟨_, ha, h⟩ => by cases ha; exact h⟩

theorem ofValue_eq_ok_iff {l : Location} : Location.ofValue v = .ok l ↔ PlaceDescribes v l := by
  cases v with
  | dict t =>
    simp only [Location.ofValue, Location.ofTable, bind_eq_ok_iff, required_eq_ok_iff text_is,
      optional_eq_ok_iff whole_is]
    constructor
    · rintro ⟨file, hfile, line, hline, column, hcolumn, h⟩
      cases h
      exact .place hfile hline hcolumn
    · rintro ⟨hfile, hline, hcolumn⟩
      exact ⟨_, hfile, _, hline, _, hcolumn, rfl⟩
  | _ => exact iff_of_false nofun nofun

theorem mapM_ofValue_eq_ok_iff {ls : List Location} :
    vs.mapM Location.ofValue = .ok ls ↔ List.Forall₂ PlaceDescribes vs ls := by
  induction vs generalizing ls with
  | nil =>
    rw [List.mapM_nil, List.forall₂_nil_left_iff]
    exact ⟨fun h => by cases h; rfl, fun h => by rw [h]; rfl⟩
  | cons v vs ih =>
    rw [List.mapM_cons]
    simp only [bind_eq_ok_iff, ofValue_eq_ok_iff, ih]
    constructor
    · rintro ⟨l, hl, ls', hls, h⟩
      cases h
      exact .cons hl hls
    · intro h
      cases h with
      | cons hl hls => exact ⟨_, hl, _, hls, rfl⟩

theorem failsWith_ofValue (v : Value) : FailsWith (Location.ofValue v) (placeFaults v) := by
  cases v with
  | dict t =>
    show FailsWith (Location.ofTable t) (_ ++ _ ++ _)
    rw [List.append_assoc]
    refine (failsWith_required text t "file").bind fun file _ => ?_
    refine (failsWith_optional whole t "line" 0).bind fun line _ => ?_
    exact (failsWith_optional whole t "column" 0).bind_pure _
  | _ => exact failsWith_error _

theorem failsWith_mapM_ofValue (vs : List Value) :
    FailsWith (vs.mapM Location.ofValue) (vs.flatMap placeFaults) := by
  induction vs with
  | nil => exact failsWith_ok []
  | cons v vs ih =>
    rw [List.mapM_cons, List.flatMap_cons]
    exact (failsWith_ofValue v).bind fun l _ => ih.bind_pure (l :: ·)

/-! ## Records -/

/-- The result of reading a finding, whatever it warns of. -/
theorem result_ofTable_diagnostic (t : Table) :
    (Diagnostic.ofTable t).result = (do
      let severity ← optional text t "severity" Severity.none.key
      let places ← optional items t "locations" []
      let frames ← places.mapM Location.ofValue
      let kind ← required text t "id"
      let short ← required text t "short"
      let verbose ← optional text t "verbose" ""
      let inconclusive ← optional flag t "inconclusive" false
      let cwe ← optional whole t "cwe" 0
      let file0 ← optional text t "file0" ""
      return .make kind short verbose (.orNone severity) inconclusive cwe frames file0) := by
  unfold Diagnostic.ofTable
  cases optional text t "severity" Severity.none.key with
  | error f => rfl
  | ok severity => rfl

theorem failsWith_finding (t : Table) :
    FailsWith (Diagnostic.ofTable t).result (findingFaults t) := by
  rw [result_ofTable_diagnostic, findingFaults]
  simp only [List.append_assoc]
  refine (failsWith_optional text t "severity" _).bind fun severity _ => ?_
  refine (failsWith_optional items t "locations" []).bind fun vs hvs => ?_
  -- The places that are looked at are those that were read, none where the field is left out.
  have hplaces : places t = vs := by
    rw [optional_eq_ok_iff items_is] at hvs
    unfold places
    cases hp : t.present? "locations" with
    | none => simpa [hp] using hvs
    | some v =>
      rw [hp, Option.getD_some] at hvs
      rw [hvs]
  rw [hplaces]
  refine (failsWith_mapM_ofValue vs).bind fun frames _ => ?_
  refine (failsWith_required text t "id").bind fun kind _ => ?_
  refine (failsWith_required text t "short").bind fun short _ => ?_
  refine (failsWith_optional text t "verbose" "").bind fun verbose _ => ?_
  refine (failsWith_optional flag t "inconclusive" false).bind fun inconclusive _ => ?_
  refine (failsWith_optional whole t "cwe" 0).bind fun cwe _ => ?_
  exact (failsWith_optional text t "file0" "").bind_pure _

theorem failsWith_progress (t : Table) : FailsWith (progressOfTable t) (progressFaults t) := by
  rw [progressFaults, List.append_assoc]
  refine (failsWith_required text t "subject").bind fun subject _ => ?_
  refine (failsWith_required text t "stage").bind fun stage _ => ?_
  exact (failsWith_optional whole t "value" 0).bind_pure _

theorem finding_eq_ok_iff {d : Diagnostic} :
    (Diagnostic.ofTable t).result = .ok d ↔ FindingDescribes t d := by
  simp only [result_ofTable_diagnostic, bind_eq_ok_iff, required_eq_ok_iff text_is,
    optional_eq_ok_iff text_is, optional_eq_ok_iff items_is, optional_eq_ok_iff flag_is,
    optional_eq_ok_iff whole_is, mapM_ofValue_eq_ok_iff]
  constructor
  · rintro ⟨severity, hseverity, places, hlocations, frames, hframes, kind, hid, short, hshort,
      verbose, hverbose, inconclusive, hinconclusive, cwe, hcwe, file0, hfile0, hd⟩
    cases hd
    exact .finding hseverity hlocations hframes hid hshort hverbose hinconclusive hcwe hfile0
  · rintro ⟨hseverity, hlocations, hframes, hid, hshort, hverbose, hinconclusive, hcwe, hfile0⟩
    exact ⟨_, hseverity, _, hlocations, _, hframes, _, hid, _, hshort, _, hverbose, _,
      hinconclusive, _, hcwe, _, hfile0, rfl⟩

theorem progress_eq_ok_iff {r : Record} :
    progressOfTable t = .ok r ↔
      ∃ subject, t.present? "subject" = some (.str subject) ∧
        ∃ stage, t.present? "stage" = some (.str stage) ∧
          ∃ value, (t.present? "value").getD (.int 0) = .int value ∧
            pure (.progress subject stage value) = (.ok r : Except Fault Record) := by
  simp only [progressOfTable, bind_eq_ok_iff, required_eq_ok_iff text_is,
    optional_eq_ok_iff whole_is]

theorem result_ofTable (t : Table) :
    (ofTable t).result = (do
      let kind ← required text t "kind"
      if kind = "diagnostic" then
        let d ← (Diagnostic.ofTable t).result
        return .diagnostic d
      else if kind = "progress" then progressOfTable t
      else if kind = "message" then
        let s ← required text t "text"
        return .message s
      else .error (.unknownKind kind)) := by
  unfold ofTable
  rw [Logged.result_bind]
  refine congrArg _ (funext fun kind => ?_)
  split
  · rw [Logged.result_bind]; rfl
  split
  · rfl
  split
  · show (required text t "text").map Record.message = _
    cases required text t "text" <;> rfl
  · rfl

theorem failsWith_record (t : Table) : FailsWith (ofTable t).result (faults t) := by
  rw [result_ofTable]
  refine (failsWith_required text t "kind").bind fun kind hkind => ?_
  rw [required_eq_ok_iff text_is] at hkind
  rw [hkind]
  by_cases hdiagnostic : kind = "diagnostic"
  · subst hdiagnostic
    exact (failsWith_finding t).bind_pure _
  by_cases hprogress : kind = "progress"
  · subst hprogress
    exact failsWith_progress t
  by_cases hmessage : kind = "message"
  · subst hmessage
    exact (failsWith_required text t "text").bind_pure _
  · rw [if_neg hdiagnostic, if_neg hprogress, if_neg hmessage]
    split
    next h => exact absurd (by simpa using h) hdiagnostic
    next h => exact absurd (by simpa using h) hprogress
    next h => exact absurd (by simpa using h) hmessage
    next h => cases h; exact failsWith_error _
    next h => exact absurd rfl (h kind)

theorem result_ofTable_eq_ok_iff {r : Record} : (ofTable t).result = .ok r ↔ Describes t r := by
  rw [result_ofTable, bind_eq_ok_iff]
  simp only [required_eq_ok_iff text_is]
  constructor
  · rintro ⟨kind, hkind, h⟩
    split at h
    next he =>
      subst he
      obtain ⟨d, hd, h⟩ := bind_eq_ok_iff.1 h
      cases h
      exact .diagnostic hkind (finding_eq_ok_iff.1 hd)
    split at h
    next he =>
      subst he
      obtain ⟨subject, hsubject, stage, hstage, value, hvalue, h⟩ := progress_eq_ok_iff.1 h
      cases h
      exact .progress hkind hsubject hstage hvalue
    split at h
    next he =>
      subst he
      obtain ⟨s, hs, h⟩ := bind_eq_ok_iff.1 h
      cases h
      exact .message hkind ((required_eq_ok_iff text_is).1 hs)
    next => cases h
  · rintro (⟨hkind, htext⟩ | ⟨hkind, hsubject, hstage, hvalue⟩ | ⟨hkind, hfinding⟩)
    · refine ⟨_, hkind, ?_⟩
      exact bind_eq_ok_iff.2 ⟨_, (required_eq_ok_iff text_is).2 htext, rfl⟩
    · refine ⟨_, hkind, ?_⟩
      exact progress_eq_ok_iff.2 ⟨_, hsubject, _, hstage, _, hvalue, rfl⟩
    · refine ⟨_, hkind, ?_⟩
      exact bind_eq_ok_iff.2 ⟨_, finding_eq_ok_iff.2 hfinding, rfl⟩

/-! ## Warnings -/

theorem events_finding (t : Table) : (Diagnostic.ofTable t).events = findingWarnings t := by
  unfold Diagnostic.ofTable findingWarnings
  cases hseverity : optional text t "severity" Severity.none.key with
  | error f =>
    split
    next s hs =>
      have hok : optional text t "severity" Severity.none.key = .ok s := by
        rw [optional_eq_ok_iff text_is, hs]
        rfl
      rw [hok] at hseverity
      cases hseverity
    next => rfl
  | ok severity =>
    rw [optional_eq_ok_iff text_is] at hseverity
    simp only [Logged.lift, Logged.emit, Logged.bind_ok, List.nil_append, List.append_nil]
    cases hp : t.present? "severity" with
    | none =>
      rw [hp, Option.getD_none, Value.str.injEq] at hseverity
      subst hseverity
      decide +kernel
    | some v =>
      rw [hp, Option.getD_some] at hseverity
      subst hseverity
      rfl

theorem events_ofTable (t : Table) : (ofTable t).events = warnings t := by
  unfold ofTable warnings
  cases hkind : required text t "kind" with
  | error f =>
    split
    next hs =>
      rw [(required_eq_ok_iff text_is).2 hs] at hkind
      cases hkind
    next => rfl
  | ok kind =>
    rw [required_eq_ok_iff text_is] at hkind
    simp only [hkind, Logged.lift, Logged.bind_ok, List.nil_append]
    by_cases hdiagnostic : kind = "diagnostic"
    · subst hdiagnostic
      have hevents : (Diagnostic.ofTable t >>= fun d => pure (Record.diagnostic d)).events =
          (Diagnostic.ofTable t).events := by
        rcases Diagnostic.ofTable t with ⟨events, f | d⟩
        · rfl
        · simp
      rw [if_pos rfl, hevents, events_finding]
      rfl
    · have hnone : (match some (Value.str kind) with
          | some (.str "diagnostic") => findingWarnings t
          | _ => []) = [] := by
        split
        next h => exact absurd (by simpa using h) hdiagnostic
        next => rfl
      rw [if_neg hdiagnostic, hnone]
      split
      · rfl
      split <;> rfl

/-- **A table is read as a record just when it describes one**, and as the one it describes. That
is so just when nothing is wrong with it, else reading fails with the first thing that is. An
unknown severity of a finding is warned of once, and nothing else is. -/
theorem ofTable_iff (t : Table) :
    (∀ r, (ofTable t).result = .ok r ↔ Describes t r) ∧
      ((∃ r, Describes t r) ↔ faults t = []) ∧
      (∀ f, (ofTable t).result = .error f ↔ (faults t).head? = some f) ∧
      (ofTable t).events = warnings t := by
  refine ⟨fun r => result_ofTable_eq_ok_iff, ?_, failsWith_record t, events_ofTable t⟩
  simp only [← result_ofTable_eq_ok_iff]
  have hfails := failsWith_record t
  cases hresult : (ofTable t).result with
  | error f =>
    rw [hresult] at hfails
    obtain ⟨fs, hfs⟩ := List.head?_eq_some_iff.1 ((hfails f).1 rfl)
    rw [hfs]
    exact iff_of_false nofun nofun
  | ok r =>
    rw [hresult] at hfails
    exact iff_of_true ⟨r, rfl⟩ hfails.eq_nil

/-- A place without a file comes before a mistyped number and a missing text. -/
example : (faults [("kind", .str "diagnostic"), ("id", .str "leak"), ("cwe", .bool true),
    ("verbose", .null), ("locations", .list [.dict [("line", .int 3)]])]).map Fault.message =
      ["missing required key 'file'", "missing required key 'short'",
        "'cwe' must be of type int"] := by
  decide +kernel

end InspectionFeed.Record
