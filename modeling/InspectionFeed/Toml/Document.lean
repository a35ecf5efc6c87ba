/-
Loading the document of a file: reading its bytes, decoding them in one
piece, making all line ends line feeds, and reading the text as TOML, which
is done leniently.
-/
import InspectionFeed.Host.Basic
import InspectionFeed.Log.Event
import InspectionFeed.Text.Lines
import InspectionFeed.Text.Utf8
import InspectionFeed.Toml.Lenient.Reader

namespace InspectionFeed.Document

/-- Why a file gives no document. -/
inductive Fault
  | unreadable (path : String) (fault : Host.Fault)
  | unnameable
  | undecodable (fault : Text.Utf8.Fault)
  | content (path : String) (fault : Toml.Lenient.Fault)
  deriving Repr, DecidableEq

/-- The wording of a fault in the text of a file. -/
def contentMessage (path : String) : Toml.Lenient.Fault → String
  | .malformed => "Invalid TOML in " ++ path
  | .repeated key => "Key \"" ++ key ++ "\" already exists."
  | .redefined => "Redefinition of an existing table"

/-- The wording of a fault. -/
def Fault.message : Fault → String
  | .unreadable path fault => "Cannot read TOML file " ++ path ++ ": " ++ fault.message
  | .unnameable => Host.Cause.unnameable.text
  | .undecodable fault => fault.message
  | .content path fault => contentMessage path fault

/-- The fault of a file that cannot be read. -/
def Fault.ofHost (path : String) (fault : Host.Fault) : Fault :=
  if fault.cause = .unnameable then .unnameable else .unreadable path fault

/-- The document that a text stands for. -/
def ofText (text : List Char) : Except Toml.Lenient.Fault Table :=
  Toml.Lenient.read (Text.unifyLineEnds text)

def ofFile (h : Host) (path : HostPath) : Except Fault Table := do
  let bytes ← (h.read path).mapError (Fault.ofHost path.text)
  let text ← (Text.Utf8.decode bytes).mapError Fault.undecodable
  (ofText text).mapError (Fault.content path.text)

/-- The document of a file, with the log line about it. -/
def load (h : Host) (path : HostPath) : Logged Fault Table := do
  let t ← .lift (ofFile h path)
  .emit [⟨.debug, "Loaded TOML from " ++ path.text⟩]
  return t

theorem result_load (h : Host) (path : HostPath) : (load h path).result = ofFile h path := by
  unfold load
  cases ofFile h path <;> rfl

end InspectionFeed.Document
