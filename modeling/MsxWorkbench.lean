import MsxWorkbench.Charset.Delivered
import MsxWorkbench.Charset.Picker
import MsxWorkbench.Charset.Source
import MsxWorkbench.Charset.Table
import MsxWorkbench.Contents.Archive
import MsxWorkbench.Contents.ContentsViewer
import MsxWorkbench.Contents.Fault
import MsxWorkbench.Contents.ManualViewer
import MsxWorkbench.Contents.PageView
import MsxWorkbench.Contents.Topic
import MsxWorkbench.Disk.Directory
import MsxWorkbench.Disk.Fat
import MsxWorkbench.Disk.Volume
import MsxWorkbench.Editor.Buffer
import MsxWorkbench.Editor.Characters
import MsxWorkbench.Editor.Commands
import MsxWorkbench.Editor.Find
import MsxWorkbench.Editor.Margin
import MsxWorkbench.Editor.Menu
import MsxWorkbench.Editor.Palette
import MsxWorkbench.Editor.Place
import MsxWorkbench.Editor.Preferences
import MsxWorkbench.Editor.State
import MsxWorkbench.Files.FileTree
import MsxWorkbench.Files.Path
import MsxWorkbench.Gallery.AlphabetViewer
import MsxWorkbench.Gallery.Canvas
import MsxWorkbench.Gallery.LayoutViewer
import MsxWorkbench.Gallery.ScreenViewer
import MsxWorkbench.Gallery.ShapeViewer
import MsxWorkbench.HexDump
import MsxWorkbench.Indexing
import MsxWorkbench.Json.Access
import MsxWorkbench.Json.Build
import MsxWorkbench.Json.Demand
import MsxWorkbench.Json.Kind
import MsxWorkbench.Json.Reader
import MsxWorkbench.Json.Shown
import MsxWorkbench.Json.Value
import MsxWorkbench.Json.Writer
import MsxWorkbench.Launch
import MsxWorkbench.Main
import MsxWorkbench.Markup.Element
import MsxWorkbench.Markup.NamedCharacters
import MsxWorkbench.Markup.Reference
import MsxWorkbench.Markup.Refusal
import MsxWorkbench.Markup.Tag
import MsxWorkbench.Notice
import MsxWorkbench.Number.Binary64
import MsxWorkbench.Number.Twister
import MsxWorkbench.Picture.Alphabet
import MsxWorkbench.Picture.Extent
import MsxWorkbench.Picture.Image
import MsxWorkbench.Picture.Layout
import MsxWorkbench.Picture.Palette
import MsxWorkbench.Picture.Screen
import MsxWorkbench.Picture.Shape
import MsxWorkbench.Program.Analysis
import MsxWorkbench.Program.Constant
import MsxWorkbench.Program.Highlight
import MsxWorkbench.Program.Map
import MsxWorkbench.Program.Renumber
import MsxWorkbench.Program.Segment
import MsxWorkbench.Program.Spacing
import MsxWorkbench.Program.Tokens
import MsxWorkbench.Program.Vocabulary
import MsxWorkbench.Proofs.Charset.Tables
import MsxWorkbench.Proofs.Disk.Chain
import MsxWorkbench.Proofs.Disk.Copying
import MsxWorkbench.Proofs.Disk.Entries
import MsxWorkbench.Proofs.Disk.Selection
import MsxWorkbench.Proofs.Editor.Renumber
import MsxWorkbench.Proofs.Editor.RenumberFlow
import MsxWorkbench.Proofs.Editor.RenumberReferences
import MsxWorkbench.Proofs.Editor.Runs
import MsxWorkbench.Proofs.Editor.Saving
import MsxWorkbench.Proofs.Gallery.ShapeBrowsing
import MsxWorkbench.Proofs.Gallery.ShapeControls
import MsxWorkbench.Proofs.Picture.Drawing
import MsxWorkbench.Proofs.Picture.Packing
import MsxWorkbench.Proofs.Picture.Screens
import MsxWorkbench.Proofs.Picture.ShapeRecords
import MsxWorkbench.Proofs.Program.CodePass
import MsxWorkbench.Proofs.Program.FoundPass
import MsxWorkbench.Proofs.Program.LineFacts
import MsxWorkbench.Proofs.Program.Occurrences
import MsxWorkbench.Proofs.Program.PartGrammar
import MsxWorkbench.Proofs.Program.OffsetReading
import MsxWorkbench.Proofs.Program.Parts
import MsxWorkbench.Proofs.Program.ReferencePass
import MsxWorkbench.Proofs.Program.References
import MsxWorkbench.Proofs.Program.Renaming
import MsxWorkbench.Proofs.Program.Renumbered
import MsxWorkbench.Proofs.Program.TokenFormat
import MsxWorkbench.Proofs.Program.Verbatim
import MsxWorkbench.Proofs.Settings.Renumbering
import MsxWorkbench.Proofs.Steps
import MsxWorkbench.Proofs.Text.Ascii
import MsxWorkbench.Proofs.Text.Bytes
import MsxWorkbench.Proofs.Text.Classes
import MsxWorkbench.Proofs.Text.Numerals
import MsxWorkbench.Proofs.Text.Occurrences
import MsxWorkbench.Proofs.Text.Rows
import MsxWorkbench.Report.Contents
import MsxWorkbench.Report.Editor
import MsxWorkbench.Report.Notice
import MsxWorkbench.Report.Picture
import MsxWorkbench.Report.Program
import MsxWorkbench.Report.Settings
import MsxWorkbench.Report.Suite
import MsxWorkbench.Report.Viewer
import MsxWorkbench.Round.Coverage
import MsxWorkbench.Round.Fault
import MsxWorkbench.Round.History
import MsxWorkbench.Round.Measurement
import MsxWorkbench.Round.RepoTime
import MsxWorkbench.Round.SelfCheck
import MsxWorkbench.Settings.Cell
import MsxWorkbench.Settings.Store
import MsxWorkbench.Settings.Theme
import MsxWorkbench.Suite.Benchmark
import MsxWorkbench.Suite.CharacterSample
import MsxWorkbench.Suite.ContentsSample
import MsxWorkbench.Suite.DiskSample
import MsxWorkbench.Suite.Outcome
import MsxWorkbench.Suite.PictureRuns
import MsxWorkbench.Suite.ProgramRuns
import MsxWorkbench.Suite.ProgramSample
import MsxWorkbench.Suite.TextBuffer
import MsxWorkbench.Suite.ViewerRuns
import MsxWorkbench.Text.Blank
import MsxWorkbench.Text.Case
import MsxWorkbench.Text.Cased
import MsxWorkbench.Text.Digit
import MsxWorkbench.Text.Encoding
import MsxWorkbench.Text.Integer
import MsxWorkbench.Text.Lines
import MsxWorkbench.Text.Quoted
import MsxWorkbench.Text.Real
import MsxWorkbench.Text.Search
import MsxWorkbench.Text.Visible
import MsxWorkbench.Text.Word
import MsxWorkbench.Viewer.Content
import MsxWorkbench.Viewer.FileViewer
import MsxWorkbench.Viewer.Looks
import MsxWorkbench.Proofs.Program.Respaced
import MsxWorkbench.Proofs.Program.Literals
import MsxWorkbench.Proofs.Program.RenumberedLines
import MsxWorkbench.Proofs.Editor.RenumberLiterals
import MsxWorkbench.Proofs.Markup.WrittenTags
import MsxWorkbench.Proofs.Markup.Nesting
import MsxWorkbench.Proofs.Contents.Items
import MsxWorkbench.Proofs.Contents.WrittenContents
import MsxWorkbench.Proofs.Contents.Completeness
import MsxWorkbench.Proofs.Contents.TreeSearch
import MsxWorkbench.Proofs.Program.ItemForms
import MsxWorkbench.Proofs.Program.LineStarts
import MsxWorkbench.Proofs.Program.LineTails
import MsxWorkbench.Proofs.Program.AnalysisStates
import MsxWorkbench.Proofs.Settings.SavedColors
import MsxWorkbench.Proofs.Editor.Restart
import MsxWorkbench.Proofs.Program.RespacedJumps
import MsxWorkbench.Proofs.Editor.ProgramMap
import MsxWorkbench.Proofs.Program.ChangedReferences
import MsxWorkbench.Proofs.Program.RenumberedText
import MsxWorkbench.Proofs.Editor.RenumberRuns
import MsxWorkbench.Proofs.Editor.RenumberedAgain
import MsxWorkbench.Proofs.Program.ConstantValues
import MsxWorkbench.Proofs.Program.AnalysedCode
import MsxWorkbench.Proofs.Editor.RestoredNumbers
import MsxWorkbench.Proofs.Text.Capitals
import MsxWorkbench.Proofs.Picture.AnnouncedBytes
import MsxWorkbench.Proofs.Program.JoinedTexts
import MsxWorkbench.Proofs.Program.CalledNames
import MsxWorkbench.Proofs.Editor.CursorLine
import MsxWorkbench.Proofs.Settings.RefusedColors
import MsxWorkbench.Proofs.Disk.Opening
import MsxWorkbench.Proofs.Charset.Literals
import MsxWorkbench.Proofs.Charset.WrittenArrays
import MsxWorkbench.Proofs.Charset.Overrides
import MsxWorkbench.Proofs.Gallery.ScreenDrawing
import MsxWorkbench.Proofs.Program.ListingForm
import MsxWorkbench.Proofs.Disk.DirectoryRecords
import MsxWorkbench.Proofs.Text.Hexadecimal
import MsxWorkbench.Proofs.Viewer.HexRows
import MsxWorkbench.Proofs.Text.FileEncodings
import MsxWorkbench.Proofs.Editor.Replacing
import MsxWorkbench.Proofs.Charset.Clicks
import MsxWorkbench.Proofs.Editor.FunctionMarks
import MsxWorkbench.Proofs.Gallery.AlphabetTable
import MsxWorkbench.Proofs.Suite.SplicedText
