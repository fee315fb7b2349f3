import ContractAudit.Audit.Severity
import ContractAudit.Failure

/-!
# Assessments

What an audit comes to.  An assessment is also what is stored and sent around, so each part has a
JSON form and a check of a JSON value that claims to be one.

* `Location`, `Finding`, `Metrics`, `Assessment` -- the parts;
* `toJson` -- the JSON form; fields of a location that are not known are left out;
* `read` -- a JSON value, checked.  A field goes by its JSON name or by its name with underscores.
-/

namespace ContractAudit

/-- A field known by its JSON name, and by its name with underscores if that is another one. -/
def Slot.named (jsonName plainName : String) : Slot :=
  ⟨jsonName, some plainName⟩

/-! ### Locations -/

/-- Where a finding lies, as far as it is known. -/
structure Location where
  lineStart : Option Int
  lineEnd : Option Int
  snippet : Option String
  deriving DecidableEq, Repr

namespace Location

/-- Nothing is known. -/
def empty : Location := ⟨none, none, none⟩

/-- Whether nothing is known. -/
def isEmpty (l : Location) : Bool :=
  l.lineStart.isNone && l.lineEnd.isNone && l.snippet.isNone

/-- A field, if there is something to say. -/
def optional (name : String) : Option Json → List (String × Json)
  | some value => [(name, value)]
  | none => []

/-- The JSON form. -/
def toJson (l : Location) : Json :=
  .obj (optional "lineStart" (l.lineStart.map .int) ++ optional "lineEnd" (l.lineEnd.map .int)
    ++ optional "snippet" (l.snippet.map .str))

/-- A location whose fields go by the given names. -/
def readWith (lineStart lineEnd snippet : Slot) (fields : List (String × Json)) :
    Checked Location :=
  (((Checked.pass Location.mk).both
    (lineStart.orElse (Json.readNullable Json.readInt) none fields)).both
    (lineEnd.orElse (Json.readNullable Json.readInt) none fields)).both
    (snippet.orElse (Json.readNullable Json.readText) none fields)

/-- A JSON value as a location. -/
def read : Json → Checked Location :=
  Json.readRecord (readWith (.named "lineStart" "line_start") (.named "lineEnd" "line_end")
    ⟨"snippet", none⟩)

end Location

/-! ### Findings -/

/-- One finding of an assessment. -/
structure Finding where
  id : String
  title : String
  severity : Severity
  description : String
  location : Location
  suggestedFix : String
  deriving DecidableEq, Repr

namespace Finding

/-- The JSON form. -/
def toJson (f : Finding) : Json :=
  .obj [("id", .str f.id), ("title", .str f.title), ("severity", .str f.severity.name),
    ("description", .str f.description), ("codeContext", f.location.toJson),
    ("suggestedFix", .str f.suggestedFix)]

/-- A JSON value as a finding. -/
def read : Json → Checked Finding :=
  Json.readRecord fun fields =>
    ((((((Checked.pass Finding.mk).both
      (Slot.required ⟨"id", none⟩ Json.readText fields)).both
      (Slot.required ⟨"title", none⟩ Json.readText fields)).both
      (Slot.required ⟨"severity", none⟩ (Json.readName Severity.ofName?) fields)).both
      (Slot.required ⟨"description", none⟩ Json.readText fields)).both
      (Slot.orElse (.named "codeContext" "code_context") Location.read .empty fields)).both
      (Slot.required (.named "suggestedFix" "suggested_fix") Json.readText fields)

end Finding

/-! ### Metrics -/

/-- Counts over the findings and the source. -/
structure Metrics where
  totalVulnerabilities : Int
  criticalCount : Int
  highCount : Int
  mediumCount : Int
  lowCount : Int
  linesOfCode : Int
  functionCount : Int
  deriving DecidableEq, Repr

namespace Metrics

/-- The JSON form. -/
def toJson (m : Metrics) : Json :=
  .obj [("totalVulnerabilities", .int m.totalVulnerabilities),
    ("criticalCount", .int m.criticalCount), ("highCount", .int m.highCount),
    ("mediumCount", .int m.mediumCount), ("lowCount", .int m.lowCount),
    ("linesOfCode", .int m.linesOfCode), ("functionCount", .int m.functionCount)]

/-- A JSON value as metrics. -/
def read : Json → Checked Metrics :=
  Json.readRecord fun fields =>
    let count (slot : Slot) := slot.required Json.readInt fields
    (((((((Checked.pass Metrics.mk).both
      (count (.named "totalVulnerabilities" "total_vulnerabilities"))).both
      (count (.named "criticalCount" "critical_count"))).both
      (count (.named "highCount" "high_count"))).both
      (count (.named "mediumCount" "medium_count"))).both
      (count (.named "lowCount" "low_count"))).both
      (count (.named "linesOfCode" "lines_of_code"))).both
      (count (.named "functionCount" "function_count"))

end Metrics

/-! ### Assessments -/

/-- What an audit comes to. -/
structure Assessment where
  riskScore : Nat
  riskLevel : RiskLevel
  summary : String
  findings : List Finding
  metrics : Metrics
  riskScore_le : riskScore ≤ 100

namespace Assessment

/-- The JSON form. -/
def toJson (a : Assessment) : Json :=
  .obj [("riskScore", .int a.riskScore), ("riskLevel", .str a.riskLevel.name),
    ("summary", .str a.summary), ("vulnerabilities", .arr (a.findings.map Finding.toJson)),
    ("metrics", a.metrics.toJson)]

/-- A whole number from zero to one hundred. -/
def readScore (value : Json) : Checked { n : Nat // n ≤ 100 } :=
  (Json.readInt value).andThen fun n =>
    if n < 0 then Checked.fail .belowMinimum
    else if h : n.toNat ≤ 100 then .ok ⟨n.toNat, h⟩
    else Checked.fail .aboveMaximum

/-- A JSON value as an assessment. -/
def read : Json → Checked Assessment :=
  Json.readRecord fun fields =>
    (((((Checked.pass fun (score : { n : Nat // n ≤ 100 }) level summary findings metrics =>
        (⟨score.1, level, summary, findings, metrics, score.2⟩ : Assessment)).both
      (Slot.required (.named "riskScore" "risk_score") readScore fields)).both
      (Slot.required (.named "riskLevel" "risk_level") (Json.readName Severity.ofName?)
        fields)).both
      (Slot.required ⟨"summary", none⟩ Json.readText fields)).both
      (Slot.required ⟨"vulnerabilities", none⟩ (Json.readList Finding.read) fields)).both
      (Slot.required ⟨"metrics", none⟩ Metrics.read fields)

end Assessment

end ContractAudit
