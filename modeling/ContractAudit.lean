import ContractAudit.Assistant
import ContractAudit.Audit.Admission
import ContractAudit.Audit.Assessment
import ContractAudit.Audit.Auditor
import ContractAudit.Audit.Battery
import ContractAudit.Audit.Category
import ContractAudit.Audit.Detector.AccessControl
import ContractAudit.Audit.Detector.Overflow
import ContractAudit.Audit.Detector.Reentrancy
import ContractAudit.Audit.Detector.UncheckedCall
import ContractAudit.Audit.Draft
import ContractAudit.Audit.Journal
import ContractAudit.Audit.SampleContract
import ContractAudit.Audit.Score
import ContractAudit.Audit.Severity
import ContractAudit.CommandLine.Command
import ContractAudit.CommandLine.Grammar
import ContractAudit.CommandLine.Log
import ContractAudit.CommandLine.Run
import ContractAudit.Configuration.Basic
import ContractAudit.Configuration.EnvironmentFile
import ContractAudit.Failure
import ContractAudit.Files
import ContractAudit.Json.Checked
import ContractAudit.Json.Printer
import ContractAudit.Json.Reader
import ContractAudit.Json.Value
import ContractAudit.Main
import ContractAudit.Number.Binary64
import ContractAudit.Number.Numeral
import ContractAudit.Number.Shortest
import ContractAudit.Proofs.Audit.Agreement
import ContractAudit.Proofs.Audit.AlikeDrafts
import ContractAudit.Proofs.Audit.CallBeforeWrite
import ContractAudit.Proofs.Audit.Catalogued
import ContractAudit.Proofs.Audit.CheckWindow
import ContractAudit.Proofs.Audit.Corroboration
import ContractAudit.Proofs.Audit.DraftKeys
import ContractAudit.Proofs.Audit.Escalation
import ContractAudit.Proofs.Audit.FirstArithmetic
import ContractAudit.Proofs.Audit.Intake
import ContractAudit.Proofs.Audit.Layout
import ContractAudit.Proofs.Audit.LineComments
import ContractAudit.Proofs.Audit.Outcome
import ContractAudit.Proofs.Audit.Quotation
import ContractAudit.Proofs.Audit.Refusal
import ContractAudit.Proofs.Audit.Register
import ContractAudit.Proofs.Audit.Spellings
import ContractAudit.Proofs.Audit.Stored
import ContractAudit.Proofs.Audit.Strictness
import ContractAudit.Proofs.Audit.TrailingComments
import ContractAudit.Proofs.Audit.Translation
import ContractAudit.Proofs.CommandLine.Arguments
import ContractAudit.Proofs.CommandLine.Output
import ContractAudit.Proofs.CommandLine.Values
import ContractAudit.Proofs.Dialogue
import ContractAudit.Proofs.Files
import ContractAudit.Proofs.Json.Strings
import ContractAudit.Proofs.Json.Texts
import ContractAudit.Proofs.Json.Values
import ContractAudit.Proofs.Json.Whole
import ContractAudit.Proofs.Number.Decimal
import ContractAudit.Proofs.Report.Decoding
import ContractAudit.Proofs.Report.Markup
import ContractAudit.Proofs.Report.Reference
import ContractAudit.Proofs.Report.Sarif
import ContractAudit.Proofs.Report.Template
import ContractAudit.Proofs.Source.Alike
import ContractAudit.Proofs.Source.Declarations
import ContractAudit.Proofs.Source.Decomposition
import ContractAudit.Proofs.Source.Header
import ContractAudit.Proofs.Source.Operators
import ContractAudit.Proofs.Source.Placement
import ContractAudit.Proofs.Source.Pragma
import ContractAudit.Proofs.Source.PragmaText
import ContractAudit.Proofs.Source.Qualifiers
import ContractAudit.Proofs.Source.Scan
import ContractAudit.Proofs.Source.Signature
import ContractAudit.Proofs.Source.Spacing
import ContractAudit.Proofs.Source.Span
import ContractAudit.Proofs.Source.Written
import ContractAudit.Proofs.Text.Nesting
import ContractAudit.Proofs.Text.PatternSpacing
import ContractAudit.Proofs.Text.Pieces
import ContractAudit.Proofs.Text.Places
import ContractAudit.Proofs.Text.Spacing
import ContractAudit.Proofs.Text.Utf8
import ContractAudit.Proofs.Text.Visible
import ContractAudit.Proofs.Text.WholeWord
import ContractAudit.Proofs.Text.Words
import ContractAudit.Report.Format
import ContractAudit.Report.Html
import ContractAudit.Report.Plain
import ContractAudit.Report.Reference
import ContractAudit.Report.Sarif
import ContractAudit.Report.Template
import ContractAudit.Source.FunctionDef
import ContractAudit.Source.Header
import ContractAudit.Source.Idiom
import ContractAudit.Source.Line
import ContractAudit.Source.Segment
import ContractAudit.Source.Version
import ContractAudit.Text.Basic
import ContractAudit.Text.Blank
import ContractAudit.Text.Digit
import ContractAudit.Text.Hex
import ContractAudit.Text.LetterCase
import ContractAudit.Text.Lines
import ContractAudit.Text.Pattern
import ContractAudit.Text.Printable
import ContractAudit.Text.Quoted
import ContractAudit.Text.Sign
import ContractAudit.Text.Utf8
import ContractAudit.Text.Word
