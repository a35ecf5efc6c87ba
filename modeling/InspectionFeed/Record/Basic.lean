/-
Records: what one line of an analyser's output says. A record is a table
with a kind; the other fields depend on it. A null is the same as no field.

The shape is strict: a required field must be there, and every field must
have its type, where true and false are no numbers and a number with a
fraction is no whole number. Only an unknown severity is let pass: the
finding is then reported without one, with a warning.
-/
import InspectionFeed.Diagnostic.Basic
import InspectionFeed.Log.Event
import InspectionFeed.Value.Literal

namespace InspectionFeed

/-- One line of an analyser's output. -/
inductive Record
  | message (text : String)
  | progress (subject stage : String) (value : Int)
  | diagnostic (d : Diagnostic)
  deriving Repr, DecidableEq

namespace Record

/-- Why a table is no record. -/
inductive Fault
  | missing (key : String)
  | wrongType (key expected : String)
  | placeNotTable
  | unknownKind (kind : String)
  deriving Repr, DecidableEq

/-- The kinds of records, in the order of their names. -/
def kinds : List String := ["diagnostic", "message", "progress"]

/-- The wording of a fault. -/
def Fault.message : Fault → String
  | .missing key => "missing required key '" ++ key ++ "'"
  | .wrongType key expected => "'" ++ key ++ "' must be of type " ++ expected
  | .placeNotTable => "'locations' entries must be objects"
  | .unknownKind kind =>
    "unknown record kind '" ++ kind ++ "' - valid choices: " ++ ", ".intercalate kinds

/-! ## Fields -/

/-- The type of a field: its name, and the content of the values that have it. -/
structure FieldType (α : Type) where
  name : String
  content? : Value → Option α

def text : FieldType String :=
  ⟨"str", fun
    | .str s => some s
    | _ => none⟩

/-- Whole numbers. -/
def whole : FieldType Int :=
  ⟨"int", fun
    | .int i => some i
    | _ => none⟩

/-- True or false. -/
def flag : FieldType Bool :=
  ⟨"bool", fun
    | .bool b => some b
    | _ => none⟩

/-- Lists. -/
def items : FieldType (List Value) :=
  ⟨"list", fun
    | .list vs => some vs
    | _ => none⟩

/-- The content of a field that must be there. -/
def required {α : Type} (type : FieldType α) (t : Table) (key : String) : Except Fault α :=
  match t.present? key with
  | none => .error (.missing key)
  | some v =>
    match type.content? v with
    | some a => .ok a
    | none => .error (.wrongType key type.name)

/-- The content of a field, or what stands for it when it is not there. -/
def optional {α : Type} (type : FieldType α) (t : Table) (key : String) (default : α) :
    Except Fault α :=
  if (t.present? key).isNone then .ok default else required type t key

end Record

/-! ## Findings -/

/-- The place that a table describes. -/
def Location.ofTable (t : Table) : Except Record.Fault Location := do
  let file ← Record.required Record.text t "file"
  let line ← Record.optional Record.whole t "line" 0
  let column ← Record.optional Record.whole t "column" 0
  return ⟨file, line, column⟩

/-- The place that a value describes. -/
def Location.ofValue : Value → Except Record.Fault Location
  | .dict t => Location.ofTable t
  | _ => .error .placeNotTable

namespace Severity

/-- The severity that a text names, none if there is no such severity. -/
def orNone (text : String) : Severity := (parse? text).getD .none

/-- The warning about a text that names no severity. -/
def unknownEvents (text : String) : List Log.Event :=
  if (parse? text).isSome then []
  else [⟨.warning, "Unknown severity " ++ Text.quoted text ++ ", reporting without severity"⟩]

end Severity

/-- The finding that a table describes. The severity and the places are read first, then the
other fields in the order in which a finding lists them. -/
def Diagnostic.ofTable (t : Table) : Logged Record.Fault Diagnostic := do
  let severity ← .lift (Record.optional Record.text t "severity" Severity.none.key)
  .emit (Severity.unknownEvents severity)
  .lift do
    let places ← Record.optional Record.items t "locations" []
    let frames ← places.mapM Location.ofValue
    let kind ← Record.required Record.text t "id"
    let short ← Record.required Record.text t "short"
    let verbose ← Record.optional Record.text t "verbose" ""
    let inconclusive ← Record.optional Record.flag t "inconclusive" false
    let cwe ← Record.optional Record.whole t "cwe" 0
    let file0 ← Record.optional Record.text t "file0" ""
    return .make kind short verbose (.orNone severity) inconclusive cwe frames file0

namespace Record

/-- The step of progress that a table describes. -/
def progressOfTable (t : Table) : Except Fault Record := do
  let subject ← required text t "subject"
  let stage ← required text t "stage"
  let value ← optional whole t "value" 0
  return .progress subject stage value

/-- The record that a table describes. -/
def ofTable (t : Table) : Logged Fault Record := do
  let kind ← .lift (required text t "kind")
  if kind = "diagnostic" then return .diagnostic (← Diagnostic.ofTable t)
  else if kind = "progress" then .lift (progressOfTable t)
  else if kind = "message" then .lift ((required text t "text").map .message)
  else .fail (.unknownKind kind)

end Record

end InspectionFeed
