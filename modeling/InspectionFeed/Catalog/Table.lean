/-
Reading a catalog from the table of its document: an optional name and a
list of entries, one table for each kind. Unlike in records, only a key that
is not there has a default; a null is a wrong value.

Entries are read in order and numbered from 1. The first that is wrong ends
the reading. A severity that is no name of one is let pass with a warning.
-/
import InspectionFeed.Catalog.Basic
import InspectionFeed.Log.Event
import InspectionFeed.Value.Literal

namespace InspectionFeed

namespace Catalog

/-- What is wrong with an entry that has an identifier. -/
inductive EntryFault
  | short
  | verbose
  | cwe
  deriving Repr, DecidableEq

/-- Why a table is no catalog. -/
inductive Fault
  | name
  | entries
  | notTable (catalog : String) (index : Nat)
  | noIdentifier (index : Nat)
  | entry (index : Nat) (kind : String) (fault : EntryFault)
  deriving Repr, DecidableEq

/-- How an entry is named in messages. -/
def entryLabel (index : Nat) (kind : String) : String :=
  "catalog entry " ++ toString index ++ " (" ++ kind ++ ")"

/-- The wording of an entry's fault. -/
def EntryFault.message : EntryFault → String
  | .short => "'short' is required"
  | .verbose => "'verbose' must be a string"
  | .cwe => "'cwe' must be a non-negative integer"

/-- The wording of a fault. -/
def Fault.message : Fault → String
  | .name => "catalog 'name' must be a non-empty string"
  | .entries => "catalog 'diagnostic' must be an array of tables"
  | .notTable catalog index =>
    "catalog " ++ catalog ++ ": entry " ++ toString index ++ " is not a table"
  | .noIdentifier index => "catalog entry " ++ toString index ++ ": 'id' is required"
  | .entry index kind fault => entryLabel index kind ++ ": " ++ fault.message

/-- The severity that a value names. -/
def severity? : Value → Option Severity
  | .str s => Severity.parse? s
  | _ => none

/-- The warning about a severity that is none. -/
def severityEvents (index : Nat) (kind : String) (v : Value) : List Log.Event :=
  if (severity? v).isSome then []
  else [⟨.warning, entryLabel index kind ++ ": unknown severity " ++ v.literal ++
    ", using 'none'"⟩]

/-- The identifier of an entry. -/
def identifier? (t : Table) : Option String :=
  match t.get? "id" with
  | some (.str s) => if s = "" then none else some s
  | _ => none

/-- The short text of an entry. -/
def shortText (t : Table) : Except EntryFault String :=
  match t.get? "short" with
  | some (.str s) => .ok s
  | _ => .error .short

/-- The detailed text of an entry, empty when there is none. -/
def verboseText (t : Table) : Except EntryFault String :=
  match t.get? "verbose" with
  | none => .ok ""
  | some (.str s) => .ok s
  | some _ => .error .verbose

/-- The weakness class of an entry, 0 when there is none. -/
def weaknessClass (t : Table) : Except EntryFault Int :=
  match t.get? "cwe" with
  | none => .ok 0
  | some (.int i) => if i < 0 then .error .cwe else .ok i
  | some _ => .error .cwe

/-- The severity value of an entry. -/
def severityValue (t : Table) : Value := (t.get? "severity").getD (.str Severity.none.key)

/-- The kind that an entry's table describes. -/
def entryOfTable (index : Nat) (t : Table) : Logged Fault Description :=
  match identifier? t with
  | none => .fail (.noIdentifier index)
  | some kind => do
    let parts := do
      let short ← shortText t
      let verbose ← verboseText t
      let cwe ← weaknessClass t
      return (short, verbose, cwe)
    let (short, verbose, cwe) ← .lift (parts.mapError (Fault.entry index kind))
    let severity := severityValue t
    .emit (severityEvents index kind severity)
    return .make kind ((severity? severity).getD .none) short verbose cwe

/-- The kind that an entry describes. -/
def entryOfValue (catalog : String) (index : Nat) : Value → Logged Fault Description
  | .dict t => entryOfTable index t
  | _ => .fail (.notTable catalog index)

/-- The kinds that entries describe, the first of them having this number. -/
def entriesFrom (catalog : String) : Nat → List Value → Logged Fault (List Description)
  | _, [] => return []
  | index, v :: vs => do
    let d ← entryOfValue catalog index v
    let ds ← entriesFrom catalog (index + 1) vs
    return d :: ds

def nameOf? (t : Table) (default : String) : Option String :=
  match t.get? "name" with
  | none => if default = "" then none else some default
  | some (.str s) => if s = "" then none else some s
  | some _ => none

def entriesOf? (t : Table) : Option (List Value) :=
  match t.get? "diagnostic" with
  | none => some []
  | some (.list vs) => some vs
  | some _ => none

/-- The catalog that a table describes, with this name if the table has none. -/
def ofTable (t : Table) (default : String) : Logged Fault Catalog :=
  match nameOf? t default, entriesOf? t with
  | none, _ => .fail .name
  | some _, none => .fail .entries
  | some name, some entries => do return ⟨name, ← entriesFrom name 1 entries⟩

end Catalog

end InspectionFeed
