import ExprLex.Diagnostic
import ExprLex.Token.Stream
import ExprLex.Decimal
import ExprLex.Payload
import ExprLex.Client.Action
import ExprLex.Client.Hover
import ExprLex.FileSystem
import ExprLex.Fixture.Run
import ExprLex.CommandLine.Arguments
import ExprLex.CommandLine.Run
import ExprLex.Main
import ExprLex.Server.Handle
import ExprLex.Proofs.Cover
import ExprLex.Proofs.DefaultSplit
import ExprLex.Proofs.Classes
import ExprLex.Proofs.Pieces
import ExprLex.Proofs.LooseRuns
import ExprLex.Proofs.Faults
import ExprLex.Proofs.Mending
import ExprLex.Proofs.Lines
import ExprLex.Proofs.Columns
import ExprLex.Proofs.QuickFixes
import ExprLex.Proofs.Quoting
import ExprLex.Proofs.SettingsKey
import ExprLex.Proofs.Runs
import ExprLex.Proofs.CacheTransparency
import ExprLex.Proofs.Balance
import ExprLex.Proofs.Clients
import ExprLex.Proofs.Configuration
import ExprLex.Proofs.Waiting
import ExprLex.Proofs.Interference
import ExprLex.Proofs.Diagnosed
import ExprLex.Proofs.LineByLine
import ExprLex.Proofs.PublishedRanges
import ExprLex.Proofs.Recognition
import ExprLex.Proofs.Boundaries
import ExprLex.Proofs.FileBytes
import ExprLex.Proofs.FrontEnds
import ExprLex.Proofs.Signs
import ExprLex.Proofs.ClosedDocuments
import ExprLex.Proofs.Endings
import ExprLex.Proofs.GroupTexts
import ExprLex.Proofs.ForcedValidation
import ExprLex.Proofs.WholePieces
import ExprLex.Proofs.Separators
import ExprLex.Proofs.Printing
import ExprLex.Proofs.AddedNames
import ExprLex.Proofs.DiagnosticOrder
import ExprLex.Proofs.LazyStreams
import ExprLex.Proofs.SinglePublication
import ExprLex.Proofs.EchoedNotices
import ExprLex.Proofs.Hovers
import ExprLex.Proofs.HoverColumns
import ExprLex.Proofs.LinesAndWords
import ExprLex.Proofs.PrintedLines
import ExprLex.Proofs.Verdict
import ExprLex.Proofs.Directives
import ExprLex.Proofs.WrittenFixtures
import ExprLex.Proofs.NameLists
import ExprLex.Proofs.RenderedTokens
