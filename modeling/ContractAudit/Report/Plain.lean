import ContractAudit.Report.Reference
import ContractAudit.Report.Template
import ContractAudit.Text.Lines

/-!
# Plain text reports

* `Report.number` -- a number that may not be known;
* `Report.plainFinding` -- the paragraph of one finding;
* `Report.plain` -- the report.
-/

namespace ContractAudit.Report

open ContractAudit.Text

/-- A number that may not be known. -/
def number : Option Int → Piece
  | some n => .number n
  | none => words "None"

/-- The lines about the location of a finding, if its first line is known. -/
def plainLocation (l : Location) : List Piece :=
  match l.lineStart with
  | none => []
  | some line =>
    [words "• Location: lines ", .number line, words "-", number l.lineEnd, words "\n"]
      ++ match given? l.snippet with
        | none => []
        | some snippet => [.text (indented 4 snippet.toList), words "\n"]

/-- The lines with the references of a finding, if there are any. -/
def plainReferences : List String → List Piece
  | [] => []
  | urls => words "• References:\n"
      :: urls.flatMap fun url => [words "    ", words url, words "\n"]

/-- The paragraph of one finding, with its place in the report. -/
def plainFinding (place : Nat) (f : Finding) : List Piece :=
  [.number place, words ". [", words f.severity.title, words "] ", words f.title,
    words " (", words f.id, words ")\n• Description: ", words f.description, words "\n"]
    ++ plainLocation f.location
    ++ [words "• Recommended fix:\n", .text (indented 4 f.suggestedFix.toList), words "\n"]
    ++ plainReferences f.references ++ [words "\n"]

/-- The paragraphs of the findings, the first one having the given place. -/
def plainFindings : Nat → List Finding → List Piece
  | _, [] => []
  | place, f :: rest => plainFinding place f ++ plainFindings (place + 1) rest

/-- The report of an assessment on the named source, made at the given date. -/
def plain (a : Assessment) (sourceName : Signs) (date : String) : List Piece :=
  [words "SOLIDITY RISK SCANNER REPORT\nSource: ", .name sourceName,
    words "\nDate: ", words date,
    words "\n\nRisk score: ", .number a.riskScore, words "/100 (", words a.riskLevel.title,
    words ")\n", words a.summary,
    words "\n\nFindings: ", .number a.metrics.totalVulnerabilities,
    words " (critical ", .number a.metrics.criticalCount,
    words ", high ", .number a.metrics.highCount,
    words ", medium ", .number a.metrics.mediumCount,
    words ", low ", .number a.metrics.lowCount,
    words ")\nLines of code: ", .number a.metrics.linesOfCode,
    words "\nFunctions: ", .number a.metrics.functionCount, words "\n\n"]
    ++ plainFindings 1 a.findings

end ContractAudit.Report
