import UnitLift.Batch
import UnitLift.Compile.Any
import UnitLift.Compile.Config
import UnitLift.Compile.Detection
import UnitLift.Compile.LibraryProbe
import UnitLift.Compile.Options
import UnitLift.Compile.Recorded
import UnitLift.Compile.Standard
import UnitLift.Compile.Toolchain
import UnitLift.Data.Access
import UnitLift.Data.JsonReader
import UnitLift.Data.JsonText
import UnitLift.Data.Printed
import UnitLift.Data.Value
import UnitLift.Database.Loading
import UnitLift.Database.Lookup
import UnitLift.Database.Ownership
import UnitLift.Diagnostic
import UnitLift.Digest.Sha256
import UnitLift.Document
import UnitLift.Entity.Graph
import UnitLift.Entity.Index
import UnitLift.Entity.Named
import UnitLift.Failure
import UnitLift.FileSystem
import UnitLift.Journal
import UnitLift.Logging
import UnitLift.Number.Binary64
import UnitLift.Parse.Cursor
import UnitLift.Parse.FrontEnd
import UnitLift.Parse.Parser
import UnitLift.Path
import UnitLift.Path.Links
import UnitLift.Preprocess.Child
import UnitLift.Preprocess.Definition
import UnitLift.Preprocess.LineMarker
import UnitLift.Preprocess.MainFile
import UnitLift.Preprocess.Placeholder
import UnitLift.Preprocess.Run
import UnitLift.Proofs.Batch.Collecting
import UnitLift.Proofs.Batch.Filing
import UnitLift.Proofs.Batch.FrontEnds
import UnitLift.Proofs.Batch.Routes
import UnitLift.Proofs.Batch.Stopping
import UnitLift.Proofs.Batch.Turns
import UnitLift.Proofs.Compile.Arguments
import UnitLift.Proofs.Compile.Blocks
import UnitLift.Proofs.Compile.Calls
import UnitLift.Proofs.Compile.CommandLine
import UnitLift.Proofs.Compile.Edits
import UnitLift.Proofs.Compile.Equality
import UnitLift.Proofs.Compile.History
import UnitLift.Proofs.Compile.LibraryProbe
import UnitLift.Proofs.Compile.Lifting
import UnitLift.Proofs.Compile.Slots
import UnitLift.Proofs.Data.Overlaid
import UnitLift.Proofs.Data.Tree
import UnitLift.Proofs.Database.Clients
import UnitLift.Proofs.Database.Configuration
import UnitLift.Proofs.Database.Grouping
import UnitLift.Proofs.Database.Lookup
import UnitLift.Proofs.Database.Ownership
import UnitLift.Proofs.Database.RoundTrip
import UnitLift.Proofs.Database.Siblings
import UnitLift.Proofs.Entity.Identity
import UnitLift.Proofs.Entity.Planting
import UnitLift.Proofs.Entity.Registration
import UnitLift.Proofs.Indifference
import UnitLift.Proofs.Logging
import UnitLift.Proofs.Logging.Repeated
import UnitLift.Proofs.Number.Binary64
import UnitLift.Proofs.Number.Decimal
import UnitLift.Proofs.Parse.Atomicity
import UnitLift.Proofs.Parse.Busy
import UnitLift.Proofs.Parse.Call
import UnitLift.Proofs.Parse.Closing
import UnitLift.Proofs.Parse.Diagnostics
import UnitLift.Proofs.Parse.Enumeration
import UnitLift.Proofs.Parse.File
import UnitLift.Proofs.Parse.Indifference
import UnitLift.Proofs.Parse.Lifecycle
import UnitLift.Proofs.Parse.Lifting
import UnitLift.Proofs.Parse.Lineage
import UnitLift.Proofs.Parse.Registering
import UnitLift.Proofs.Parse.Reuse
import UnitLift.Proofs.Parse.Visibility
import UnitLift.Proofs.Path.Stem
import UnitLift.Proofs.Preprocess.Accounts
import UnitLift.Proofs.Preprocess.Agreement
import UnitLift.Proofs.Preprocess.Attendance
import UnitLift.Proofs.Preprocess.Child
import UnitLift.Proofs.Preprocess.Closing
import UnitLift.Proofs.Preprocess.Completion
import UnitLift.Proofs.Preprocess.Definition
import UnitLift.Proofs.Preprocess.FastMode
import UnitLift.Proofs.Preprocess.Flaws
import UnitLift.Proofs.Preprocess.Handling
import UnitLift.Proofs.Preprocess.Hiding
import UnitLift.Proofs.Preprocess.LineMarker
import UnitLift.Proofs.Preprocess.LineNumbers
import UnitLift.Proofs.Preprocess.Outcomes
import UnitLift.Proofs.Preprocess.Rendering
import UnitLift.Proofs.Preprocess.Run
import UnitLift.Proofs.Preprocess.Sheet
import UnitLift.Proofs.Preprocess.SideFile
import UnitLift.Proofs.Session
import UnitLift.Proofs.Settings.Document
import UnitLift.Proofs.Settings.Laws
import UnitLift.Proofs.Settings.Lookup
import UnitLift.Proofs.SettingsLibrary
import UnitLift.Proofs.SettingsStore
import UnitLift.Proofs.Table
import UnitLift.Proofs.Text.Blank
import UnitLift.Proofs.Text.LineFeeds
import UnitLift.Proofs.Text.Lines
import UnitLift.Proofs.Text.Numeral
import UnitLift.Proofs.Work
import UnitLift.Proofs.Yaml.Proper
import UnitLift.Release
import UnitLift.Session
import UnitLift.Settings
import UnitLift.Settings.Document
import UnitLift.Settings.Key
import UnitLift.Settings.Located
import UnitLift.Settings.Lookup
import UnitLift.Settings.Overlay
import UnitLift.SettingsLibrary
import UnitLift.SettingsStore
import UnitLift.Specification
import UnitLift.Table
import UnitLift.Template.Basic
import UnitLift.Template.Form
import UnitLift.Template.Reader
import UnitLift.Template.Token
import UnitLift.Text.Base64
import UnitLift.Text.Blank
import UnitLift.Text.CharacterRange
import UnitLift.Text.Fraction
import UnitLift.Text.Lines
import UnitLift.Text.Numeral
import UnitLift.Text.Pattern
import UnitLift.Text.Printable
import UnitLift.Text.Quoted
import UnitLift.Text.Utf8
import UnitLift.Text.WordCharacter
import UnitLift.Work
import UnitLift.WorkingDirectory
import UnitLift.World
import UnitLift.Yaml.BlockText
import UnitLift.Yaml.Character
import UnitLift.Yaml.Datum
import UnitLift.Yaml.Flaw
import UnitLift.Yaml.Moment
import UnitLift.Yaml.Node
import UnitLift.Yaml.Number
import UnitLift.Yaml.Plain
import UnitLift.Yaml.QuotedText
import UnitLift.Yaml.ScalarKind
import UnitLift.Yaml.Tag
import UnitLift.Yaml.Token
import UnitLift.Yaml.Writer
import UnitLift.Yaml.WrittenScalar
