import InspectionFeed.Automation.Session
import InspectionFeed.Automation.Versions
import InspectionFeed.Catalog.Basic
import InspectionFeed.Catalog.Table
import InspectionFeed.CommandLine.Arguments
import InspectionFeed.CommandLine.Checks
import InspectionFeed.CommandLine.Fault
import InspectionFeed.CommandLine.Help
import InspectionFeed.CommandLine.Run
import InspectionFeed.CommandLine.Topic
import InspectionFeed.CommandLine.Work
import InspectionFeed.Console
import InspectionFeed.Decimal.Binary64
import InspectionFeed.Decimal.Shortest
import InspectionFeed.Diagnostic.Basic
import InspectionFeed.Diagnostic.Fingerprint
import InspectionFeed.Host.Basic
import InspectionFeed.Host.FileTree
import InspectionFeed.Json.Reader
import InspectionFeed.Keyword
import InspectionFeed.Log.Event
import InspectionFeed.Log.Layout
import InspectionFeed.Log.Threshold
import InspectionFeed.Main
import InspectionFeed.Message.Basic
import InspectionFeed.Message.Decode
import InspectionFeed.Message.Escape
import InspectionFeed.Message.Parse
import InspectionFeed.Path.Anchor
import InspectionFeed.Path.Name
import InspectionFeed.Path.Relative
import InspectionFeed.Path.Separators
import InspectionFeed.Proofs.Announcement
import InspectionFeed.Proofs.Automation.Support
import InspectionFeed.Proofs.Automation.Versions
import InspectionFeed.Proofs.Catalog.Reading
import InspectionFeed.Proofs.Catalog.Schema
import InspectionFeed.Proofs.CommandLine.Emit
import InspectionFeed.Proofs.CommandLine.Encoding
import InspectionFeed.Proofs.CommandLine.InspectionTypes
import InspectionFeed.Proofs.CommandLine.Settings
import InspectionFeed.Proofs.CommandLine.Threshold
import InspectionFeed.Proofs.Fingerprint
import InspectionFeed.Proofs.Json.Integers
import InspectionFeed.Proofs.Json.LongNumber
import InspectionFeed.Proofs.Keyword
import InspectionFeed.Proofs.Log.Threshold
import InspectionFeed.Proofs.Message.Escaped
import InspectionFeed.Proofs.Message.Glyph
import InspectionFeed.Proofs.Message.Line
import InspectionFeed.Proofs.Message.Unambiguous
import InspectionFeed.Proofs.Message.Value
import InspectionFeed.Proofs.Path.Anchored
import InspectionFeed.Proofs.Path.Canonical
import InspectionFeed.Proofs.Path.Components
import InspectionFeed.Proofs.Path.Folding
import InspectionFeed.Proofs.Path.Report
import InspectionFeed.Proofs.Path.Separators
import InspectionFeed.Proofs.Path.Settled
import InspectionFeed.Proofs.Path.Spelling
import InspectionFeed.Proofs.Record.Composition
import InspectionFeed.Proofs.Record.Printable
import InspectionFeed.Proofs.Record.Reading
import InspectionFeed.Proofs.Record.RoundTrip
import InspectionFeed.Proofs.Record.Schema
import InspectionFeed.Proofs.Registry.Building
import InspectionFeed.Proofs.Registry.Catalogs
import InspectionFeed.Proofs.Registry.Contents
import InspectionFeed.Proofs.Reporter.Accounts
import InspectionFeed.Proofs.Reporter.Calls
import InspectionFeed.Proofs.Reporter.Conversion
import InspectionFeed.Proofs.Reporter.Failure
import InspectionFeed.Proofs.Reporter.Isolation
import InspectionFeed.Proofs.Reporter.Order
import InspectionFeed.Proofs.Reporter.Past
import InspectionFeed.Proofs.Reporter.Report
import InspectionFeed.Proofs.Reporter.Run
import InspectionFeed.Proofs.Settings.Influence
import InspectionFeed.Proofs.Settings.Layering
import InspectionFeed.Proofs.Settings.Merging
import InspectionFeed.Proofs.Settings.Refusal
import InspectionFeed.Proofs.Settings.Settled
import InspectionFeed.Proofs.Settings.Source
import InspectionFeed.Proofs.Stream
import InspectionFeed.Proofs.Text.Ascii
import InspectionFeed.Proofs.Text.LowerCase
import InspectionFeed.Proofs.Text.Numeral
import InspectionFeed.Proofs.Text.Trim
import InspectionFeed.Proofs.Toml.Nesting
import InspectionFeed.Record.Basic
import InspectionFeed.Record.Encode
import InspectionFeed.Record.Reading
import InspectionFeed.Registry
import InspectionFeed.Registry.Load
import InspectionFeed.Reporter.Announcement
import InspectionFeed.Reporter.Basic
import InspectionFeed.Reporter.Conversion
import InspectionFeed.Settings.Basic
import InspectionFeed.Settings.Load
import InspectionFeed.Settings.Table
import InspectionFeed.Severity
import InspectionFeed.Stream
import InspectionFeed.Text.Ansi
import InspectionFeed.Text.Blank
import InspectionFeed.Text.Case
import InspectionFeed.Text.CaseTable
import InspectionFeed.Text.Colour
import InspectionFeed.Text.Digit
import InspectionFeed.Text.DigitTable
import InspectionFeed.Text.Hex
import InspectionFeed.Text.Likeness
import InspectionFeed.Text.Lines
import InspectionFeed.Text.Paint
import InspectionFeed.Text.Printable
import InspectionFeed.Text.Quoted
import InspectionFeed.Text.Ranges
import InspectionFeed.Text.Surrogate
import InspectionFeed.Text.Utf8
import InspectionFeed.Toml.Basic
import InspectionFeed.Toml.Document
import InspectionFeed.Toml.Lenient.Body
import InspectionFeed.Toml.Lenient.Fault
import InspectionFeed.Toml.Lenient.Line
import InspectionFeed.Toml.Lenient.Moment
import InspectionFeed.Toml.Lenient.Number
import InspectionFeed.Toml.Lenient.Reader
import InspectionFeed.Toml.Moment
import InspectionFeed.Toml.Strict.Reader
import InspectionFeed.Toml.Strict.Scalar
import InspectionFeed.Toml.Strict.Tree
import InspectionFeed.Toml.Strings
import InspectionFeed.Value.Basic
import InspectionFeed.Value.Calendar
import InspectionFeed.Value.Literal
