/-
The language versions that a project supports, read from the classifiers of
its project file. Each classifier that ends in two numbers with a point
between them names a version; the versions are given once each, in numeric
order. Where there are none to be found, the current version stands in, and
a warning tells why.

A document that cannot be parsed counts as an empty one. One that is nested
too deep is no document either, but a failure.
-/
import InspectionFeed.Host.Basic
import InspectionFeed.Text.Blank
import InspectionFeed.Text.Digit
import InspectionFeed.Text.Lines
import InspectionFeed.Text.Utf8
import InspectionFeed.Toml.Strict.Reader

namespace InspectionFeed.Automation

/-! ## Versions -/

/-- A version of the language. -/
structure Version where
  major : Nat
  minor : Nat
  deriving Repr, DecidableEq

namespace Version

def text (v : Version) : String := toString v.major ++ "." ++ toString v.minor

/-- Numeric order. -/
def le (v w : Version) : Bool :=
  decide (v.major < w.major) || (decide (v.major = w.major) && decide (v.minor ≤ w.minor))

end Version

/-- The texts around the only point of a text. -/
def halves? (cs : List Char) : Option (String × String) :=
  match cs.dropWhile (· ≠ '.') with
  | [] => none
  | _ :: after =>
    if '.' ∈ after then none else some (.ofList (cs.takeWhile (· ≠ '.')), .ofList after)

/-- What a classifier of a language version begins with. -/
def classifierStart : String := "Programming Language :: Python :: "

/-- The two numbers, as texts, of the version that a classifier names. -/
def numeralsOf? (classifier : String) : Option (String × String) := do
  let rest ← classifierStart.toList.isPrefixOf? classifier.toList
  let (major, minor) ← halves? (Text.trim (.ofList rest)).toList
  if Text.isDigits major ∧ Text.isDigits minor then some (major, minor) else none

/-! ## Classifiers -/

/-- Why the classifiers cannot be read. -/
inductive ClassifierFault
  | notText (value : Value)
  | numeral (fault : Text.NumeralFault)

/-- The kind of a value with the module it belongs to. -/
def fullKindName : Value → String
  | .date d => "datetime." ++ (Value.date d).kindName
  | .time t => "datetime." ++ (Value.time t).kindName
  | .datetime d t o => "datetime." ++ (Value.datetime d t o).kindName
  | v => v.kindName

/-- The wording of a fault. -/
def ClassifierFault.message : ClassifierFault → String
  | .notText v => "'" ++ fullKindName v ++ "' object has no attribute 'startswith'"
  | .numeral fault => fault.message

/-- The version that a classifier names, if it names one. -/
def versionOf (classifier : Value) : Except ClassifierFault (Option Version) :=
  match classifier with
  | .str s =>
    match numeralsOf? s with
    | none => .ok none
    | some (major, minor) =>
      match Text.readNumeral major, Text.readNumeral minor with
      | .ok m, .ok n => .ok (some ⟨m, n⟩)
      | .error fault, _ => .error (.numeral fault)
      | .ok _, .error fault => .error (.numeral fault)
  | v => .error (.notText v)

/-- The versions that classifiers name, once each and in order. -/
def versionsOf (classifiers : List Value) : Except ClassifierFault (List Version) :=
  (classifiers.mapM versionOf).map fun vs => ((vs.filterMap id).eraseDups).mergeSort Version.le

/-! ## The project file -/

/-- Why no versions are found. -/
inductive Lack
  | project
  | classifiers
  | versions
  deriving Repr, DecidableEq

/-- The warning about the current version standing in. -/
def Lack.message (l : Lack) (current : String) : String :=
  (match l with
    | .project => "Could not find 'project' table in pyproject.toml. "
    | .classifiers => "Could not find 'classifiers' in pyproject.toml. "
    | .versions => "No Python versions found in classifiers. ") ++
    "Falling back to Python " ++ current ++ "."

/-- What a document says about versions. -/
inductive Support
  | found (versions : List Version)
  | lacking (lack : Lack)
  deriving Repr, DecidableEq

namespace Support

/-- The texts of the versions, or that of the current one. -/
def texts (s : Support) (current : String) : List String :=
  match s with
  | .found vs => vs.map Version.text
  | .lacking _ => [current]

def warnings (s : Support) (current : String) : List String :=
  match s with
  | .found _ => []
  | .lacking l => [l.message current]

/-- What a document says. -/
def ofTable (t : Table) : Except ClassifierFault Support :=
  match t.get? "project" with
  | some (.dict project) =>
    match Table.get? project "classifiers" with
    | some (.list classifiers) =>
      (versionsOf classifiers).map fun
        | [] => .lacking .versions
        | v :: vs => .found (v :: vs)
    | _ => .ok (.lacking .classifiers)
  | _ => .ok (.lacking .project)

end Support

/-- Why a project file gives no answer. -/
inductive ProjectFault
  | host (fault : Host.Fault)
  | undecodable (fault : Text.Utf8.Fault)
  /-- The document is nested deeper than there is room for. -/
  | tooDeep
  | classifier (fault : ClassifierFault)

/-- The wording of a fault. -/
def ProjectFault.message : ProjectFault → String
  | .host fault => fault.message
  | .undecodable fault => fault.message
  | .tooDeep => "maximum recursion depth exceeded"
  | .classifier fault => fault.message

/-- The name of the project file. -/
def projectFile : String := "pyproject.toml"

/-- What cannot be parsed counts as empty. -/
def orEmpty : Except Toml.Strict.Fault Table → Except ProjectFault Table
  | .ok t => .ok t
  | .error .malformed => .ok []
  | .error .tooDeep => .error .tooDeep

/-- The document of the bytes of a project file, read strictly with room for so many calls. -/
def documentOf (room : Nat) (bytes : List UInt8) : Except ProjectFault Table := do
  let text ← (Text.Utf8.decode bytes).mapError .undecodable
  orEmpty (Toml.Strict.read room (Text.unifyLineEnds text))

/-- What the project file in the working directory says, with room for so many calls. Without one
the document is empty. -/
def support (room : Nat) (h : Host) : Except ProjectFault Support := do
  let path := h.directory.child projectFile
  let t ←
    if ← (h.isThere path).mapError .host then do
      documentOf room (← (h.read path).mapError .host)
    else .ok []
  (Support.ofTable t).mapError .classifier

end InspectionFeed.Automation
