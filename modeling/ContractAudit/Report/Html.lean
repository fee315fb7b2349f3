import ContractAudit.Report.Plain

/-!
# HTML reports

Everything that comes from the assessment or from the name of the source is written as text: the
five characters that mean something to HTML are replaced by references.

* `Report.escapeMarkup` -- one character as text;
* `Report.asText`, `Report.nameAsText` -- a string and a name as text;
* `Report.htmlWith` -- the report, with any replacement of characters;
* `Report.html` -- the report.
-/

namespace ContractAudit.Report

open ContractAudit.Text

/-- One character as text. -/
def escapeMarkup (c : Char) : Text :=
  if c = '&' then "&amp;".toList
  else if c = '<' then "&lt;".toList
  else if c = '>' then "&gt;".toList
  else if c = '"' then "&#34;".toList
  else if c = '\x27' then "&#39;".toList
  else [c]

/-- The appearance of the report. -/
def styleSheet : List String :=
  ["  <style>",
   "    body \x7b font-family: sans-serif; margin: 2rem; color: #1f2933; \x7d",
   "    .score \x7b font-size: 2rem; font-weight: bold; \x7d",
   "    .critical \x7b color: #b91c1c; \x7d",
   "    .high \x7b color: #c2410c; \x7d",
   "    .medium \x7b color: #a16207; \x7d",
   "    .low \x7b color: #15803d; \x7d",
   "    .card \x7b border: 1px solid #d2d6dc; border-radius: 6px; padding: 1rem; "
     ++ "margin: 1rem 0; \x7d",
   "    pre \x7b background: #f4f5f7; padding: 0.75rem; overflow-x: auto; \x7d",
   "    table \x7b border-collapse: collapse; \x7d",
   "    td, th \x7b padding: 0.25rem 0.75rem; text-align: left; \x7d",
   "  </style>"]

/-- One cell of the table of counts. -/
def htmlCell (n : Int) : List Piece :=
  [words "      <td>", .number n, words "</td>\n"]

section Escaping

variable (escape : Char → Text)

/-- A string as text. -/
def asText (s : String) : Piece :=
  .text (s.toList.flatMap escape)

/-- A name as text. -/
def nameAsText (name : Signs) : Piece :=
  .name (name.flatMap fun sign => match sign with
    | .char c => Signs.ofText (escape c)
    | .octet low => [.octet low])

/-- The lines about the location of a finding, if its first line is known. -/
def htmlLocation (l : Location) : List Piece :=
  match l.lineStart with
  | none => []
  | some line =>
    [words "    <p>Lines ", .number line, words "-", number l.lineEnd, words "</p>\n"]
      ++ match given? l.snippet with
        | none => []
        | some snippet => [words "    <pre><code>", asText escape snippet, words "</code></pre>\n"]

/-- One reference. -/
def htmlReference (url : String) : List Piece :=
  [words "      <li><a href=\"", asText escape url, words "\">", asText escape url,
    words "</a></li>\n"]

/-- The list of references, if there are any. -/
def htmlReferences : List String → List Piece
  | [] => []
  | urls => words "    <h3>References</h3>\n    <ul>\n" :: urls.flatMap (htmlReference escape)
      ++ [words "    </ul>\n"]

/-- The card of one finding. -/
def htmlFinding (f : Finding) : List Piece :=
  [words "  <div class=\"card\">\n    <h2 class=\"", words f.severity.name, words "\">[",
    words f.severity.title, words "] ", asText escape f.title, words "</h2>\n    <p>",
    asText escape f.description, words "</p>\n"]
    ++ htmlLocation escape f.location
    ++ [words "    <h3>Suggested fix</h3>\n    <pre>", asText escape f.suggestedFix,
      words "</pre>\n"]
    ++ htmlReferences escape f.references
    ++ [words "  </div>\n"]

/-- The head of the report. -/
def htmlHead (sourceName : Signs) : List Piece :=
  [words "<!DOCTYPE html>\n<html lang=\"en\">\n<head>\n  <meta charset=\"utf-8\">\n",
    words "  <title>Solidity Risk Scanner Report - ", nameAsText escape sourceName,
    words "</title>\n", .text (styleSheet.flatMap fun line => line.toList ++ ['\n']),
    words "</head>\n"]

/-- The overview in front of the findings. -/
def htmlOverview (a : Assessment) (sourceName : Signs) (date : String) : List Piece :=
  [words "  <h1>Solidity Risk Scanner Report</h1>\n  <p>Source: ", nameAsText escape sourceName,
    words " &middot; Generated ", asText escape date, words "</p>\n\n  <p class=\"score ",
    words a.riskLevel.name, words "\">", .number a.riskScore, words "/100 &ndash; ",
    words a.riskLevel.title, words "</p>\n  <p>", asText escape a.summary,
    words "</p>\n\n  <table>\n    <tr><th>Critical</th><th>High</th><th>Medium</th>",
    words "<th>Low</th><th>Lines of code</th><th>Functions</th></tr>\n    <tr>\n"]
    ++ htmlCell a.metrics.criticalCount ++ htmlCell a.metrics.highCount
    ++ htmlCell a.metrics.mediumCount ++ htmlCell a.metrics.lowCount
    ++ htmlCell a.metrics.linesOfCode ++ htmlCell a.metrics.functionCount
    ++ [words "    </tr>\n  </table>\n\n"]

/-- The report of an assessment on the named source, made at the given date. -/
def htmlWith (a : Assessment) (sourceName : Signs) (date : String) : List Piece :=
  htmlHead escape sourceName ++ [words "<body>\n"] ++ htmlOverview escape a sourceName date
    ++ a.findings.flatMap (htmlFinding escape) ++ [words "</body>\n</html>"]

end Escaping

/-- The report of an assessment on the named source, made at the given date, its texts written as
text. -/
def html (a : Assessment) (sourceName : Signs) (date : String) : List Piece :=
  htmlWith escapeMarkup a sourceName date

end ContractAudit.Report
