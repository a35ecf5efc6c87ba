/-
The program and its commands: their names, options and explanations. Help,
usage lines and the reading of arguments all go by what is written here.
-/
import InspectionFeed.CommandLine.Arguments

namespace InspectionFeed.CommandLine

/-- What an option says. -/
inductive Use
  | help
  | more
  | fewer
  | config (path : String)
  | noConfig
  /-- Make absolute paths relative to this directory. -/
  | basePath (path : String)
  /-- Show the detailed text of findings, or the short one. -/
  | detailed (flag : Bool)
  | noPreprocessor
  | list
  deriving Repr, DecidableEq

/-- Options that are explained together. -/
structure Entry where
  switches : List (Switch Use)
  /-- What stands for the value in the explanation, where the options take one. -/
  placeholder : Option String
  text : String

inductive Command
  | emit
  | inspectionTypes
  | version
  deriving Repr, DecidableEq

/-- What help can be asked for. -/
inductive Topic
  | program
  | command (command : Command)
  deriving Repr, DecidableEq

namespace Command

/-- All commands, by name. -/
def all : List Command := [.emit, .inspectionTypes, .version]

def name : Command → String
  | .emit => "emit"
  | .inspectionTypes => "inspection-types"
  | .version => "version"

def ofName? (name : String) : Option Command := all.find? (·.name = name)

end Command

/-! ## Options -/

/-- The option that asks for help. -/
def helpEntry : Entry :=
  ⟨[.flag "--help" 'h' .help], none, "Show this message and exit."⟩

/-- The options of the program. -/
def programEntries : List Entry :=
  [⟨[.flag "--quiet" 'q' .fewer], none, "Only log errors on stderr."⟩,
    ⟨[.flag "--verbose" 'v' .more], none,
      "Increase log verbosity on stderr. Specify up to three times for more detail."⟩]

/-- The name of the option for files of settings. -/
def configOption : String := "--config"

/-- The name of the option for base directories. -/
def basePathOption : String := "--base-path"

/-- The options about settings. -/
def settingsEntries : List Entry :=
  [⟨[.value configOption .config], "FILE",
      "Read settings from this TOML file (repeatable, later files win)."⟩,
    ⟨[.flag "--no-config" none .noConfig], none,
      "Ignore configuration files in the working directory."⟩,
    ⟨[.value basePathOption .basePath], "DIRECTORY",
      "Directory that absolute report paths are made relative to (repeatable)."⟩,
    ⟨[.flag "--verbose-messages" none (.detailed true),
        .flag "--short-messages" none (.detailed false)], none,
      "Report the long or the short form of each diagnostic message."⟩]

/-- The options about providers. -/
def providerEntries : List Entry :=
  [⟨[.flag "--no-preprocessor" none .noPreprocessor], none,
      "Do not announce the built-in preprocessor diagnostics."⟩,
    ⟨[.flag "--list" none .list], none,
      "List the registered providers instead of emitting service messages."⟩]

/-! ## Topics -/

namespace Topic

/-- The options, in the order of their explanation. -/
def entries : Topic → List Entry
  | .program => programEntries ++ [helpEntry]
  | .command .emit => settingsEntries ++ [helpEntry]
  | .command .inspectionTypes => providerEntries ++ settingsEntries ++ [helpEntry]
  | .command .version => [helpEntry]

/-- The options, in one list. -/
def switches (t : Topic) : List (Switch Use) := t.entries.flatMap Entry.switches

/-- What stands for the arguments in a usage line. -/
def placeholders : Topic → List String
  | .program => ["[OPTIONS]", "[COMMAND]", "[ARGS]..."]
  | .command .emit => ["[OPTIONS]", "[INPUT]"]
  | .command .inspectionTypes => ["[OPTIONS]", "[CATALOG]..."]
  | .command .version => ["[OPTIONS]"]

/-- The explanation. -/
def text : Topic → String
  | .program => "TCInspect: report static analysis results as TeamCity service messages."
  | .command .emit =>
    "Convert NDJSON analyzer results (file or STDIN) into TeamCity service messages."
  | .command .inspectionTypes =>
    "Emit one inspectionType service message per diagnostic kind in the catalogs."
  | .command .version => "Show the current version of TCInspect."

/-- The words that call for a topic. -/
def path (t : Topic) (program : String) : String :=
  match t with
  | .program => program
  | .command c => program ++ " " ++ c.name

/-- The arguments of the program end where its command starts; those of a command mix. -/
def isMixed : Topic → Bool
  | .program => false
  | .command _ => true

/-- Reads the arguments of the program or of a command. -/
def readArguments (t : Topic) (args : List String) : Except ArgumentFault (Arguments Use) :=
  Arguments.read t.switches t.isMixed args

end Topic

end InspectionFeed.CommandLine
