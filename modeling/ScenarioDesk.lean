import ScenarioDesk.Disk.Basic
import ScenarioDesk.Disk.Error
import ScenarioDesk.Disk.FileKind
import ScenarioDesk.Disk.Path
import ScenarioDesk.Disk.Write
import ScenarioDesk.Draft
import ScenarioDesk.Editor.Basic
import ScenarioDesk.Editor.Buffer
import ScenarioDesk.Gherkin.Block
import ScenarioDesk.Gherkin.Keyword
import ScenarioDesk.Gherkin.KeywordLine
import ScenarioDesk.Gherkin.Span
import ScenarioDesk.Gherkin.Token
import ScenarioDesk.Host.Basic
import ScenarioDesk.Host.Journal
import ScenarioDesk.Json.Printer
import ScenarioDesk.Json.Reader
import ScenarioDesk.Json.Shown
import ScenarioDesk.Json.Value
import ScenarioDesk.Number.Binary64
import ScenarioDesk.Number.Shown
import ScenarioDesk.Proofs.Disk.AtomicWrite
import ScenarioDesk.Proofs.Disk.Atomicity
import ScenarioDesk.Proofs.Disk.FileNames
import ScenarioDesk.Proofs.Disk.Growth
import ScenarioDesk.Proofs.Disk.Overwrite
import ScenarioDesk.Proofs.Disk.ReadBack
import ScenarioDesk.Proofs.Disk.ScratchNames
import ScenarioDesk.Proofs.Draft.History
import ScenarioDesk.Proofs.Editor.Accepting
import ScenarioDesk.Proofs.Editor.Coherence
import ScenarioDesk.Proofs.Gherkin.Boundaries
import ScenarioDesk.Proofs.Gherkin.DisplayedKeywords
import ScenarioDesk.Proofs.Gherkin.Grouping
import ScenarioDesk.Proofs.Gherkin.Joining
import ScenarioDesk.Proofs.Gherkin.KeywordLines
import ScenarioDesk.Proofs.Gherkin.OwnTitles
import ScenarioDesk.Proofs.Gherkin.Partition
import ScenarioDesk.Proofs.Gherkin.Spans
import ScenarioDesk.Proofs.Gherkin.Titles
import ScenarioDesk.Proofs.Gherkin.Tokens
import ScenarioDesk.Proofs.Gherkin.TrimmedTitles
import ScenarioDesk.Proofs.Json.Characters
import ScenarioDesk.Proofs.Json.Integers
import ScenarioDesk.Proofs.Json.Levels
import ScenarioDesk.Proofs.Json.Limits
import ScenarioDesk.Proofs.Json.Reading
import ScenarioDesk.Proofs.Json.RoundTrip
import ScenarioDesk.Proofs.Json.StringRoundTrip
import ScenarioDesk.Proofs.Outcome
import ScenarioDesk.Proofs.Scenario.Canonical
import ScenarioDesk.Proofs.Scenario.Completion
import ScenarioDesk.Proofs.Scenario.Exchange
import ScenarioDesk.Proofs.Scenario.Ids
import ScenarioDesk.Proofs.Scenario.Merging
import ScenarioDesk.Proofs.Scenario.Retyping
import ScenarioDesk.Proofs.Scenario.Soundness
import ScenarioDesk.Proofs.Scenario.StepRecognition
import ScenarioDesk.Proofs.Scenario.Union
import ScenarioDesk.Proofs.Scenario.Vocabulary
import ScenarioDesk.Proofs.Session.Agreement
import ScenarioDesk.Proofs.Session.Canonical
import ScenarioDesk.Proofs.Session.Consistency
import ScenarioDesk.Proofs.Session.Distinctness
import ScenarioDesk.Proofs.Session.Editing
import ScenarioDesk.Proofs.Session.Effects
import ScenarioDesk.Proofs.Session.Exporting
import ScenarioDesk.Proofs.Session.Importing
import ScenarioDesk.Proofs.Session.Issued
import ScenarioDesk.Proofs.Session.Opening
import ScenarioDesk.Proofs.Session.Operations
import ScenarioDesk.Proofs.Session.Recovery
import ScenarioDesk.Proofs.Session.Refusals
import ScenarioDesk.Proofs.Session.Reimport
import ScenarioDesk.Proofs.Settings.Checking
import ScenarioDesk.Proofs.Settings.Loading
import ScenarioDesk.Proofs.Settings.RoundTrip
import ScenarioDesk.Proofs.Store.Accounting
import ScenarioDesk.Proofs.Store.Entries
import ScenarioDesk.Proofs.Store.Loading
import ScenarioDesk.Proofs.Store.RoundTrip
import ScenarioDesk.Proofs.Text.Decoding
import ScenarioDesk.Proofs.Text.Encoding
import ScenarioDesk.Proofs.Text.LineFrames
import ScenarioDesk.Proofs.Text.Lines
import ScenarioDesk.Proofs.Text.LowerCase
import ScenarioDesk.Proofs.Text.Newlines
import ScenarioDesk.Proofs.Text.Numerals
import ScenarioDesk.Proofs.Text.Offsets
import ScenarioDesk.Proofs.Text.Positions
import ScenarioDesk.Proofs.Text.Trimming
import ScenarioDesk.Proofs.Text.Utf16
import ScenarioDesk.Proofs.Text.WordEnds
import ScenarioDesk.Proofs.View.Highlighting
import ScenarioDesk.Proofs.View.Markup
import ScenarioDesk.Proofs.Window.Drafts
import ScenarioDesk.Proofs.Window.Drawing
import ScenarioDesk.Proofs.Window.Mirror
import ScenarioDesk.Proofs.Window.Quiet
import ScenarioDesk.Proofs.Window.Restart
import ScenarioDesk.Proofs.Window.Safety
import ScenarioDesk.Proofs.Window.Storing
import ScenarioDesk.Proofs.Window.Unstored
import ScenarioDesk.Runtime
import ScenarioDesk.Scenario.Collection
import ScenarioDesk.Scenario.Record
import ScenarioDesk.Scenario.Suggestion
import ScenarioDesk.Scenario.Vocabulary
import ScenarioDesk.Session.Basic
import ScenarioDesk.Session.Notice
import ScenarioDesk.Session.Run
import ScenarioDesk.Session.Store
import ScenarioDesk.Settings.Basic
import ScenarioDesk.Settings.Directories
import ScenarioDesk.Settings.File
import ScenarioDesk.Settings.LogLevel
import ScenarioDesk.Text.Basic
import ScenarioDesk.Text.Blank
import ScenarioDesk.Text.Case
import ScenarioDesk.Text.Case.Table
import ScenarioDesk.Text.CodePage
import ScenarioDesk.Text.CodePoint
import ScenarioDesk.Text.Decimal
import ScenarioDesk.Text.FileText
import ScenarioDesk.Text.Newline
import ScenarioDesk.Text.Printable
import ScenarioDesk.Text.Quoted
import ScenarioDesk.Text.Units
import ScenarioDesk.Text.Utf8
import ScenarioDesk.View.Highlight
import ScenarioDesk.View.Preview
import ScenarioDesk.View.StyleSheet
import ScenarioDesk.View.Theme
import ScenarioDesk.Window.Action
import ScenarioDesk.Window.Basic
import ScenarioDesk.Window.Import
import ScenarioDesk.Window.Launch
