import ContractAudit.Files
import ContractAudit.Json.Printer
import ContractAudit.Report.Html
import ContractAudit.Report.Sarif

/-!
# Report formats

* `Report.Format` -- the formats;
* `Report.render` -- an assessment in a format, if its numbers can be written;
* `Report.generate` -- an assessment in the format of a given name;
* `Report.generateHtml` -- an assessment in HTML, for a file as well.
-/

namespace ContractAudit.Report

/-- The formats of a report. -/
inductive Format where
  | text
  | json
  | sarif
  | html
  deriving DecidableEq, Repr

namespace Format

/-- The name of a format. -/
def name : Format → String
  | text => "text"
  | json => "json"
  | sarif => "sarif"
  | html => "html"

/-- All formats. -/
def all : List Format := [text, json, sarif, html]

/-- The format of the given name. -/
def ofName? (s : String) : Option Format :=
  all.find? fun f => f.name == s

end Format

/-- The report of an assessment on the named source, made at the given date. -/
def render (format : Format) (a : Assessment) (sourceName : Signs) (date : String) :
    Except Failure Signs :=
  match format with
  | .text => fill (plain a sourceName date)
  | .json => a.toJson.write.map .ofText
  | .sarif => (Sarif.report .ofString a sourceName).writeSigns.map .ofText
  | .html => fill (html a sourceName date)

/-- The report in the format of the given name. -/
def generate (a : Assessment) (formatName : String) (sourceName : Signs) (date : String) :
    Except Failure Signs :=
  match Format.ofName? formatName with
  | some format => render format a sourceName date
  | none => .error (.unknownFormat formatName)

/-- The HTML report, which is also written to a file if one is named. -/
def generateHtml (files : Files) (a : Assessment) (sourceName : Signs) (date : String)
    (output : Option Signs) : Files × Except Failure Signs :=
  match render .html a sourceName date, Signs.given? output with
  | .ok report, some name =>
    let (files, written) := files.write name report
    (files, written.map fun () => report)
  | outcome, _ => (files, outcome)

end ContractAudit.Report
