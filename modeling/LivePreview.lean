import LivePreview.Frame.Bridge
import LivePreview.Frame.Host
import LivePreview.Frame.Isolation
import LivePreview.Frame.Page
import LivePreview.Preview
import LivePreview.Proofs.Frame.Convergence
import LivePreview.Proofs.Import.Accounting
import LivePreview.Proofs.Import.RoundTrip
import LivePreview.Proofs.Loader.Order
import LivePreview.Proofs.Frame.Acknowledgement
import LivePreview.Proofs.Loader.Agreement
import LivePreview.Proofs.Text.Occurrence
import LivePreview.Proofs.InertLiteral
import LivePreview.Proofs.Code.Exports
import LivePreview.Proofs.Loader.Containment
import LivePreview.Proofs.Containment
import LivePreview.Proofs.Frame.Resending
import LivePreview.Proofs.Frame.Intrusion
import LivePreview.Proofs.Loader.Vetting
import LivePreview.Proofs.Output
import LivePreview.Proofs.Frame.Reporting
import LivePreview.Proofs.Json.Record
import LivePreview.Proofs.Request
import LivePreview.Proofs.Json.Kept
import LivePreview.Proofs.Frame.Message
import LivePreview.Proofs.Script.Literal
import LivePreview.Proofs.Script.Cursor
import LivePreview.Proofs.Script.Grammar
import LivePreview.Proofs.Script.ImportDeclaration
import LivePreview.Proofs.Script.Module
import LivePreview.Proofs.Import.Strict
import LivePreview.Proofs.InertLiteral.Reading
import LivePreview.Proofs.Frame.Posting
import LivePreview.Proofs.Dependency
import LivePreview.Proofs.Config.Override
import LivePreview.Proofs.Binding.Lines
import LivePreview.Proofs.Code.LineSweep
import LivePreview.Proofs.Import.Preamble
import LivePreview.Proofs.Code.Preamble
import LivePreview.Proofs.Code.TypeHeads
import LivePreview.Proofs.Preamble
import LivePreview.Proofs.Code.TypeBody
import LivePreview.Proofs.Code.TypeStripping
import LivePreview.Proofs.Code.TypeComment
import LivePreview.Proofs.Slot.Environment
import LivePreview.Proofs.SiblingFiles.Inserts
import LivePreview.Proofs.Loader.Reordering
import LivePreview.Proofs.Embed
import LivePreview.Proofs.Code.Reexport
import LivePreview.Proofs.Loader.ShimExports
import LivePreview.Proofs.Code.DefaultExport
import LivePreview.Proofs.Inlining
import LivePreview.Proofs.Brackets
import LivePreview.Proofs.Import.WellFormed
import LivePreview.Proofs.Stylesheet
import LivePreview.Proofs.Import.Offsets
