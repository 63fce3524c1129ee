import BlockQuery.Files.FileTree
import BlockQuery.Main
import BlockQuery.Proofs.Datalog.TextTree
import BlockQuery.Proofs.Datalog.FormText
import BlockQuery.Proofs.Datalog.RequestText
import BlockQuery.Proofs.Outcome
import BlockQuery.Proofs.Query.Compilation
import BlockQuery.Proofs.Query.Quotation
import BlockQuery.Proofs.Datalog.Expression
import BlockQuery.Proofs.Query.Meaning
import BlockQuery.Proofs.Datalog.Answer
import BlockQuery.Proofs.Query.Selection
import BlockQuery.Proofs.Query.Grammar
import BlockQuery.Proofs.Query.Scanning
import BlockQuery.Proofs.Query.OperatorName
import BlockQuery.Proofs.Query.Reading
import BlockQuery.Proofs.Query.WellFormed
import BlockQuery.Proofs.Query.Canonical
import BlockQuery.Proofs.Datalog.Occurrence
import BlockQuery.Proofs.Query.BranchScope
import BlockQuery.Proofs.Query.DateInputs
import BlockQuery.Proofs.Text.Words
import BlockQuery.Proofs.Datalog.RequestInputs
import BlockQuery.Proofs.Query.Numbering
import BlockQuery.Proofs.Query.DateIndependence
import BlockQuery.Proofs.Graph.RowMatches
import BlockQuery.Proofs.Graph.RunOutcome
import BlockQuery.Proofs.Graph.ReferencePlaces
import BlockQuery.Proofs.Graph.Expansion
import BlockQuery.Proofs.Graph.CallTurns
import BlockQuery.Proofs.Graph.CallBudget
import BlockQuery.Proofs.Graph.PeerMemory
import BlockQuery.Proofs.Calendar.Ordinal
import BlockQuery.Proofs.Calendar.Range
import BlockQuery.Proofs.Query.CompileErrors
import BlockQuery.Proofs.Command.ShownQuery
import BlockQuery.Proofs.Graph.CallContract
import BlockQuery.Proofs.Query.BlockScan
import BlockQuery.Proofs.Query.BlockEnds
import BlockQuery.Proofs.Text.Decimal
import BlockQuery.Proofs.Datalog.TitlePattern
import BlockQuery.Proofs.Calendar.PageTitle
import BlockQuery.Proofs.Graph.RequestLog
import BlockQuery.Proofs.Query.BlockLayout
import BlockQuery.Proofs.Query.UnclosedBlocks
import BlockQuery.Proofs.Query.FrameRemoval
import BlockQuery.Proofs.Command.RequestBounds
import BlockQuery.Proofs.Text.LowerCase
import BlockQuery.Proofs.Calendar.MonthShift
import BlockQuery.Proofs.Calendar.RelativeVocabulary
import BlockQuery.Proofs.Calendar.FormatReading
import BlockQuery.Proofs.Text.Letter
import BlockQuery.Proofs.Calendar.FormatSpelling
import BlockQuery.Proofs.Calendar.TimestampError
import BlockQuery.Proofs.Query.DayWindow
import BlockQuery.Proofs.Datalog.Coincidence
import BlockQuery.Proofs.Graph.ExpansionHeight
import BlockQuery.Proofs.Query.ConjunctionNesting
import BlockQuery.Proofs.Datalog.RequestLayout
import BlockQuery.Proofs.Query.CountedRows
import BlockQuery.Proofs.Calendar.IsoReading
import BlockQuery.Proofs.Command.ErrorCaret
import BlockQuery.Proofs.Graph.LookupLevels
import BlockQuery.Proofs.Settings.DocumentTypes
import BlockQuery.Proofs.Toml.DocumentReading
import BlockQuery.Proofs.Files.WrittenFile
import BlockQuery.Proofs.Settings.SavedSettings
import BlockQuery.Proofs.Calendar.DayTiling
import BlockQuery.Proofs.Text.Clipping
import BlockQuery.Proofs.Settings.FilledTemplate
import BlockQuery.Proofs.Files.AtomicWrite
