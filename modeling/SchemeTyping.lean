import SchemeTyping.Text.Blank
import SchemeTyping.Text.Word
import SchemeTyping.Text.Upper
import SchemeTyping.Text.Quoted
import SchemeTyping.Text.Newline
import SchemeTyping.Text.Utf8
import SchemeTyping.Text.Span
import SchemeTyping.Table
import SchemeTyping.Json.Printer
import SchemeTyping.Json.Reader
import SchemeTyping.Hierarchy.Subtype
import SchemeTyping.Hierarchy.Ranking
import SchemeTyping.Hierarchy.Schemes
import SchemeTyping.Reference.Typing
import SchemeTyping.Reference.Store
import SchemeTyping.Constraint.Policy
import SchemeTyping.Conversion.Ledger
import SchemeTyping.Report
import SchemeTyping.AnalysisUnit.Grammar
import SchemeTyping.AnalysisUnit.Declaration
import SchemeTyping.AnalysisUnit.Diagnostic
import SchemeTyping.AnalysisUnit.Loading
import SchemeTyping.Workbench
import SchemeTyping.Files.Tree
import SchemeTyping.AnalysisUnit.File
import SchemeTyping.Log
import SchemeTyping.Command.Run
import SchemeTyping.Main
import SchemeTyping.Proofs.Extraction.Conversions
import SchemeTyping.Proofs.AnalysisUnit.Verdict
import SchemeTyping.Proofs.AnalysisUnit.Severity
import SchemeTyping.Proofs.AnalysisUnit.Parsing
import SchemeTyping.Proofs.AnalysisUnit.Blocks
import SchemeTyping.Proofs.Extraction.Repetition
import SchemeTyping.Proofs.AnalysisUnit.Faithful
import SchemeTyping.Proofs.AnalysisUnit.Repetition
import SchemeTyping.Proofs.AnalysisUnit.WellFormed
import SchemeTyping.Proofs.AnalysisUnit.Guarded
import SchemeTyping.Proofs.AnalysisUnit.Refusals
import SchemeTyping.Proofs.Command.Endings
import SchemeTyping.Proofs.Extraction.Composition
import SchemeTyping.Proofs.Extraction.Reporting
import SchemeTyping.Proofs.Extraction.Rearrangement
import SchemeTyping.Proofs.Extraction.Agreement
import SchemeTyping.Proofs.Workbench.Permanence
import SchemeTyping.Proofs.Reference.Index
import SchemeTyping.Proofs.Extraction.Stopping
import SchemeTyping.Proofs.Extraction.Widening
import SchemeTyping.Proofs.AnalysisUnit.Unexpected
import SchemeTyping.Proofs.Log
import SchemeTyping.Proofs.Text.Lines
import SchemeTyping.Proofs.AnalysisUnit.Slicing
import SchemeTyping.Proofs.AnalysisUnit.Restating
import SchemeTyping.Proofs.AnalysisUnit.Extension
import SchemeTyping.Proofs.Command.Delivery
import SchemeTyping.Proofs.Hierarchy.Search
import SchemeTyping.Proofs.Extraction.Processing
import SchemeTyping.Proofs.Extraction.Alignment
import SchemeTyping.Proofs.AnalysisUnit.Pointing
import SchemeTyping.Proofs.Conversion.History
import SchemeTyping.Proofs.AnalysisUnit.Reading
import SchemeTyping.Proofs.Report.Document
import SchemeTyping.Proofs.Report.Completeness
