/-
Sessions of the project's automation: what each one installs and runs. A
session is a plan of calls, some of which depend on what its caller passes
on; a call that fails ends it.
-/
import InspectionFeed.Automation.Versions
import InspectionFeed.Value.Literal

namespace InspectionFeed.Automation

inductive Session
  | lint
  /-- Looks whether the sources are formatted. -/
  | formatCheck
  | format
  | quality
  | propertyTest
  | packageCheck
  deriving Repr, DecidableEq

/-- The language versions that a session runs under. -/
inductive Interpreters
  /-- Nothing is said about them. -/
  | unspecified
  | each (versions : List Version)
  | current
  deriving Repr, DecidableEq

/-- A call that a session makes. -/
inductive Call
  | install (args : List String)
  | run (args : List String)
  | log (text : String)
  deriving Repr, DecidableEq

/-- Why a session ends early. -/
inductive SessionFault
  | call
  | interpreter (given : Value)

/-- The wording of a fault. -/
def SessionFault.message : SessionFault → String
  | .call => "command failed"
  | .interpreter given => "Unexpected session.python value: " ++ given.literal

/-- The versions that this project supports. -/
def supported : List Version := [⟨3, 10⟩, ⟨3, 11⟩, ⟨3, 12⟩, ⟨3, 13⟩]

/-- What the caller of a session passes on. -/
structure Request where
  extra : List String
  interpreter : Value

/-- The calls of a session, and why it ends early, if it does. -/
structure Course where
  /-- The calls, in order. -/
  calls : List Call
  fault : Option SessionFault

/-- The course that ends at a failing call, counted from 1, if it gets that far. -/
def Course.failAt (c : Course) (number : Nat) : Course :=
  if 0 < number ∧ number ≤ c.calls.length then ⟨c.calls.take number, some .call⟩ else c

namespace Session

def all : List Session := [.lint, .formatCheck, .format, .quality, .propertyTest, .packageCheck]

/-- The sessions that run when none is named. -/
def defaults : List Session := [.lint, .formatCheck]

def name : Session → String
  | .lint => "lint"
  | .formatCheck => "format_check"
  | .format => "format"
  | .quality => "qa"
  | .propertyTest => "property_test"
  | .packageCheck => "package_check"

def ofName? (name : String) : Option Session := all.find? (·.name = name)

def text : Session → String
  | .lint => "Static analysis."
  | .formatCheck => "Verify formatting without changing files."
  | .format => "Apply formatting."
  | .quality => "Run tests + pyright (per Python version)."
  | .propertyTest => "Run the long-running property tests."
  | .packageCheck => "Build sdist/wheel and validate distribution metadata (twine)."

/-- The language versions of a session. -/
def interpreters : Session → Interpreters
  | .lint => .unspecified
  | .formatCheck => .unspecified
  | .format => .unspecified
  | .quality => .each supported
  | .propertyTest => .current
  | .packageCheck => .current

/-- Installs the project for development. -/
def develop : Call := .install ["-e", ".[dev]"]

/-- The first calls of the session that tests. -/
def qualityStart (r : Request) : List Call :=
  [.log ("Supported Python versions: " ++ ", ".intercalate (supported.map Version.text)), develop,
    .run (["pytest", "-q", "tests", "-m", "not hypothesis_slow"] ++ r.extra)]

/-- The course of a session in which no call fails. -/
def course (s : Session) (r : Request) : Course :=
  match s with
  | .lint => ⟨[develop, .run ["ruff", "check", "."]], none⟩
  | .formatCheck => ⟨[develop, .run ["ruff", "format", "--check", "."]], none⟩
  | .format => ⟨[develop, .run ["ruff", "format", "."]], none⟩
  | .quality =>
    match r.interpreter with
    | .str version =>
      if version = "" then ⟨qualityStart r, some (.interpreter (.str version))⟩
      else ⟨qualityStart r ++ [.run ["pyright", "--pythonversion", version]], none⟩
    | v => ⟨qualityStart r, some (.interpreter v)⟩
  | .propertyTest =>
    ⟨[develop, .run (["pytest", "-vv", "tests", "-m", "hypothesis_slow"] ++ r.extra)], none⟩
  | .packageCheck =>
    ⟨[.install ["build", "twine"],
      .run ["python", "-c", "import shutil; shutil.rmtree('dist', ignore_errors=True)"],
      .run ["python", "-m", "build", "--sdist", "--wheel"],
      .run ["twine", "check", "dist/*"]], none⟩

end Session

end InspectionFeed.Automation
