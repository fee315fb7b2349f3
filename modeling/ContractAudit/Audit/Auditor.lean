import ContractAudit.Audit.Admission
import ContractAudit.Audit.Battery
import ContractAudit.Audit.Score
import ContractAudit.Source.Segment

/-!
# Audits

An audit cuts a source into functions, runs a battery of detectors over it, takes in what they
submit and sums up.

* `Auditor` -- a battery, a table of thresholds and the visibility of functions that declare none;
* `Auditor.Options`, `Auditor.ofOptions` -- the choices that make up an auditor, and the auditor;
* `Auditor.run` -- an audit with its journal;
* `Auditor.audit` -- an audit alone;
* `measure`, `summarize` -- the metrics and the summary of an assessment.
-/

namespace ContractAudit

open ContractAudit.Text ContractAudit.Source

/-! ### Summing up -/

/-- The number of findings of a severity. -/
def countOf (severity : Severity) (findings : List Finding) : Nat :=
  (findings.filter fun f => f.severity == severity).length

/-- The metrics of a source and its findings. -/
def measure (source : Text) (findings : List Finding) : Metrics where
  totalVulnerabilities := findings.length
  criticalCount := countOf .critical findings
  highCount := countOf .high findings
  mediumCount := countOf .medium findings
  lowCount := countOf .low findings
  linesOfCode := ((lines source).filter fun line => !isBlankText line).length
  functionCount := declarationCount source

/-- The summary of an assessment, in a sentence for each of its parts. -/
def summarize (level : RiskLevel) (metrics : Metrics) : String :=
  "The contract analysis indicates a " ++ level.label ++ " security posture. Found "
    ++ toString metrics.totalVulnerabilities ++ " potential vulnerability/vulnerabilities across "
    ++ toString metrics.linesOfCode ++ " lines of code. " ++ toString metrics.functionCount
    ++ " function(s) analyzed."

/-- The assessment of a source with the given findings. -/
def assess (thresholds : Thresholds) (source : Text) (findings : List Finding) : Assessment :=
  let severities := findings.map Finding.severity
  let level := thresholds.level (score severities)
  let metrics := measure source findings
  { riskScore := score severities
    riskLevel := level
    summary := summarize level metrics
    findings
    metrics
    riskScore_le := score_le severities }

/-! ### Auditors -/

/-- What an audit goes by. -/
structure Auditor where
  thresholds : Thresholds
  /-- The name of the visibility of functions that declare none. -/
  defaultVisibility : String
  battery : List Detector

namespace Auditor

/-- The choices that make up an auditor, before any of them has been looked at. -/
structure Options where
  thresholds : ThresholdChoice := .table "standard"
  defaultVisibility : String := "public"
  callCheckWindow : Int := standardWindow
  safeArithmeticVersion : String := "0.8.0"
  /-- Detectors in place of the program's own. -/
  battery : Option (List Detector) := none

/-- The auditor of the given choices.  The thresholds are looked at first; the safe version only if
the program's own detectors are used. -/
def ofOptions (o : Options) : Except Failure Auditor := do
  let thresholds ← o.thresholds.resolve
  match o.battery with
  | some battery => return ⟨thresholds, o.defaultVisibility, battery⟩
  | none =>
    let version ← parseVersion o.safeArithmeticVersion
    return ⟨thresholds, o.defaultVisibility,
      standardBattery o.callCheckWindow (version.parts.map Int.ofNat)⟩

/-- The source that a mode and a text stand for, if they stand for one. -/
def admitSource (source : Option Text) (mode : String) : Except Failure Text :=
  if mode = "address" then .error .addressLookup
  else if mode ≠ "source" ∧ mode ≠ "solidity" then .error (.unknownMode mode)
  else match source with
    | none => .error .emptySource
    | some text => if isBlankText text then .error .emptySource else .ok text

/-- What the segmentation notes about a segment. -/
def segmentEntry? : Segment → Option Journal.Entry
  | .closed _ => none
  | .bodiless name line =>
    some ⟨.segmentation, .debug, "Skipping bodiless declaration of " ++ String.ofList name
      ++ " at line " ++ toString line⟩
  | .unclosed name line =>
    some ⟨.segmentation, .debug, "Function " ++ String.ofList name ++ " at line " ++ toString line
      ++ " never closes; dropped"⟩

/-- The functions of a source, and what the segmentation notes about it. -/
def segment (default : Visibility) (source : Text) : Journaled (List FunctionDef) :=
  let segments := segments default source
  ⟨segments.filterMap segmentEntry?, .ok (segments.filterMap Segment.function?)⟩

/-- Run the detectors of a battery one after the other and take in what they submit. -/
def inspectAll (source : Text) (functions : List FunctionDef) :
    List Detector → Register → Journaled Register
  | [], register => pure register
  | detector :: rest, register => do
    let submissions ← detector.inspect source functions
    Journaled.note .auditor .debug ("Detector " ++ detector.name ++ " produced "
      ++ toString submissions.length ++ " candidate findings")
    let register ← register.enterAll submissions
    inspectAll source functions rest register

/-- An audit with its journal. -/
def run (a : Auditor) (source : Option Text) (mode : String) : Journaled Assessment := do
  let text ← admitSource source mode
  let visibility ← Visibility.parse a.defaultVisibility
  let functions ← segment visibility text
  Journaled.note .auditor .info ("Auditing " ++ toString (rows text).length ++ " lines, "
    ++ toString functions.length ++ " functions segmented")
  let register ← inspectAll text functions a.battery .empty
  let assessment := assess a.thresholds text register.conclude
  Journaled.note .auditor .info ("Audit finished: " ++ toString assessment.findings.length
    ++ " findings, risk " ++ toString assessment.riskScore ++ " ("
    ++ assessment.riskLevel.name ++ ")")
  return assessment

/-- An audit. -/
def audit (a : Auditor) (source : Option Text) (mode : String) : Except Failure Assessment :=
  (a.run source mode).outcome

end Auditor

/-! ### Requests -/

/-- The ways in which the text of a request can be meant. -/
inductive Mode where
  | source
  | solidity
  | address
  deriving DecidableEq, Repr

namespace Mode

/-- The name of a mode. -/
def name : Mode → String
  | source => "source"
  | solidity => "solidity"
  | address => "address"

/-- The mode of the given name. -/
def ofName? (s : String) : Option Mode :=
  [source, solidity, address].find? fun m => m.name == s

end Mode

/-- A text and the way in which it is meant. -/
structure Request where
  sourceText : String
  mode : Mode

namespace Request

/-- A JSON value as a request. -/
def read : Json → Checked Request :=
  Json.readRecord fun fields =>
    ((Checked.pass Request.mk).both
      (Slot.orElse (.named "sourceText" "source_text") Json.readText "" fields)).both
      (Slot.orElse (.named "inputMode" "input_mode") (Json.readName Mode.ofName?) .source fields)

/-- The audit that is requested. -/
def audit (request : Request) (a : Auditor) : Except Failure Assessment :=
  a.audit (some request.sourceText.toList) request.mode.name

end Request

end ContractAudit
