import ContractAudit.Proofs.Audit.Stored
import ContractAudit.Proofs.Json.Texts
import ContractAudit.Report.Format

/-!
# Reading a JSON report back

A JSON report is the printed form of an assessment, if its numbers are short enough to be written.  The
numbers of an assessment are whole, so the printed form reads back, and what is read passes the checks
of a stored assessment: whoever receives the report has the assessment itself, whatever characters its
texts hold.

* `Location.realFree_toJson`, `Finding.realFree_toJson`, `Metrics.realFree_toJson`,
  `Assessment.realFree_toJson` -- the numbers are whole;
* `Assessment.numbers`, `Assessment.isWritable_toJson` -- which they are, and when they can be written;
* `Location.exists_fields` -- a location has exactly the fields that are known;
* `render_json_reads_back` -- a report reads back.
-/

namespace ContractAudit

/-- The value of an object under a name. -/
def Json.member? (name : String) : Json → Option Json
  | obj fields => field? name fields
  | _ => none

/-! ### The numbers are whole -/

theorem Location.realFree_of_mem_optional {α : Type} {toJson : α → Json} (h : ∀ x, (toJson x).RealFree)
    (name : String) (value : Option α) :
    ∀ field ∈ optional name (value.map toJson), field.2.RealFree := by
  intro field hfield
  cases value with
  | none => cases hfield
  | some x =>
    rw [List.mem_singleton.1 hfield]
    exact h x

theorem Location.realFree_toJson (l : Location) : l.toJson.RealFree := by
  apply Json.RealFree.obj
  simp only [List.forall_mem_append]
  exact ⟨⟨realFree_of_mem_optional .int _ _, realFree_of_mem_optional .int _ _⟩,
    realFree_of_mem_optional .str _ _⟩

theorem Finding.realFree_toJson (f : Finding) : f.toJson.RealFree := by
  apply Json.RealFree.obj
  simp only [List.forall_mem_cons]
  exact ⟨.str _, .str _, .str _, .str _, f.location.realFree_toJson, .str _, List.forall_mem_nil _⟩

theorem Metrics.realFree_toJson (m : Metrics) : m.toJson.RealFree := by
  apply Json.RealFree.obj
  simp only [List.forall_mem_cons]
  exact ⟨.int _, .int _, .int _, .int _, .int _, .int _, .int _, List.forall_mem_nil _⟩

theorem Assessment.realFree_toJson (a : Assessment) : a.toJson.RealFree := by
  have hfindings : ∀ item ∈ a.findings.map Finding.toJson, item.RealFree := by
    intro item hitem
    obtain ⟨f, -, rfl⟩ := List.mem_map.1 hitem
    exact f.realFree_toJson
  apply Json.RealFree.obj
  simp only [List.forall_mem_cons]
  exact ⟨.int _, .str _, .str _, .arr hfindings, a.metrics.realFree_toJson, List.forall_mem_nil _⟩

/-! ### The numbers of an assessment -/

/-- The lines of a location, as far as they are known. -/
def Location.numbers (l : Location) : List Int :=
  l.lineStart.toList ++ l.lineEnd.toList

/-- The numbers of an assessment. -/
def Assessment.numbers (a : Assessment) : List Int :=
  (a.riskScore : Int) :: (a.findings.flatMap fun f => f.location.numbers)
    ++ [a.metrics.totalVulnerabilities, a.metrics.criticalCount, a.metrics.highCount,
      a.metrics.mediumCount, a.metrics.lowCount, a.metrics.linesOfCode, a.metrics.functionCount]

theorem Location.isWritable_toJson (l : Location) :
    l.toJson.isWritable = l.numbers.all Numeral.isWritable := by
  obtain ⟨lineStart, lineEnd, snippet⟩ := l
  cases lineStart <;> cases lineEnd <;> cases snippet <;>
    simp [toJson, numbers, optional, Json.isWritable]

theorem Finding.isWritable_toJson (f : Finding) :
    f.toJson.isWritable = f.location.numbers.all Numeral.isWritable := by
  simp [toJson, Json.isWritable, f.location.isWritable_toJson]

/-- Which numbers of an assessment have to be written in its JSON form: all of them. -/
theorem Assessment.isWritable_toJson (a : Assessment) :
    a.toJson.isWritable = a.numbers.all Numeral.isWritable := by
  have hfindings : (a.findings.map Finding.toJson).all Json.isWritable
      = (a.findings.flatMap fun f => f.location.numbers).all Numeral.isWritable := by
    rw [List.all_map, List.all_flatMap]
    exact congrArg _ (funext Finding.isWritable_toJson)
  simp only [numbers, List.cons_append, List.all_cons, List.all_append, ← hfindings]
  simp [toJson, Json.isWritable, Metrics.toJson]

/-! ### Reports -/

/-- A location is written with the fields that are known, and no others. -/
theorem Location.exists_fields (l : Location) :
    ∃ fields, l.toJson = .obj fields ∧
      Json.field? "lineStart" fields = l.lineStart.map .int ∧
      Json.field? "lineEnd" fields = l.lineEnd.map .int ∧
      Json.field? "snippet" fields = l.snippet.map .str ∧
      (fields = [] ↔ l.isEmpty = true) := by
  obtain ⟨lineStart, lineEnd, snippet⟩ := l
  refine ⟨_, rfl, ?_⟩
  cases lineStart <;> cases lineEnd <;> cases snippet <;>
    simp [optional, Json.field?, isEmpty]

namespace Report

/-- **A JSON report reads back.**  If the numbers of the assessment can be written, the text is ASCII
and decodes to the JSON form of the assessment; otherwise there is no report.  The JSON form checks as
that very assessment.  Of the location of a finding what is not known is left out and comes back as not
known, so that the location is written as an empty object exactly if nothing is known of it. -/
theorem render_json_reads_back (a : Assessment) (sourceName : Signs) (date : String) :
    ((∀ n ∈ a.numbers, Numeral.isWritable n = true) →
      ∃ text : Text, render .json a sourceName date = .ok (.ofText text) ∧
        Json.parse? text = some a.toJson ∧ ∀ c ∈ text, c.toNat < 128) ∧
    ((∃ n ∈ a.numbers, Numeral.isWritable n = false) →
      render .json a sourceName date = .error .unwritableNumber) ∧
    Assessment.read a.toJson = .ok a ∧
    a.toJson.member? "vulnerabilities" = some (.arr (a.findings.map Finding.toJson)) ∧
    ∀ f ∈ a.findings, ∃ fields,
      f.toJson.member? "codeContext" = some (.obj fields) ∧
      Location.read (.obj fields) = .ok f.location ∧
      Json.field? "lineStart" fields = f.location.lineStart.map .int ∧
      Json.field? "lineEnd" fields = f.location.lineEnd.map .int ∧
      Json.field? "snippet" fields = f.location.snippet.map .str ∧
      (fields = [] ↔ f.location.isEmpty = true) := by
  have hfree := a.realFree_toJson
  have hwritable := a.isWritable_toJson
  refine ⟨?_, ?_, a.read_toJson, rfl, ?_⟩
  · intro h
    rw [List.all_eq_true.2 h] at hwritable
    refine ⟨_, ?_, Json.parse?_printAt hfree, Json.isAscii_printAt hfree 0⟩
    rw [render, Json.write, Json.writeWith, if_pos hwritable]
    rfl
  · intro h
    rw [List.all_eq_false.2 (by simpa using h)] at hwritable
    rw [render, Json.write, Json.writeWith, hwritable]
    rfl
  intro f _
  obtain ⟨fields, hlocation, hfields⟩ := f.location.exists_fields
  have hread := f.location.read_toJson
  have hmember : f.toJson.member? "codeContext" = some f.location.toJson := rfl
  rw [hlocation] at hread hmember
  exact ⟨fields, hmember, hread, hfields⟩

/-- An assessment of which one finding has no location and the other has only its last line, with
characters of every kind of escape. -/
def halfLocated : Assessment where
  riskScore := 0
  riskLevel := .low
  summary := "\"tab\t\" \\ é 😀 \x07"
  findings := [⟨"info-1", "é", .low, "", ⟨none, none, none⟩, "/"⟩,
    ⟨"info-2", "😀", .low, "", ⟨none, some (-4), none⟩, "\n"⟩]
  metrics := ⟨2, 0, 0, 0, 2, 1, 0⟩
  riskScore_le := by decide

theorem render_json_reads_back_halfLocated :
    ∃ text : Text, render .json halfLocated (.ofString "a.sol") "" = .ok (.ofText text) ∧
      Json.parse? text = some halfLocated.toJson ∧
      halfLocated.findings.map (fun f => f.toJson.member? "codeContext")
        = [some (.obj []), some (.obj [("lineEnd", .int (-4))])] ∧
      Location.read (.obj []) = .ok ⟨none, none, none⟩ := by
  obtain ⟨hrender, -, -, -, hlocations⟩ := render_json_reads_back halfLocated (.ofString "a.sol") ""
  obtain ⟨text, htext, hparse, -⟩ := hrender (List.all_eq_true.1 rfl)
  obtain ⟨fields, -, hread, -, -, -, hempty⟩ := hlocations _ List.mem_cons_self
  rw [hempty.2 rfl] at hread
  exact ⟨text, htext, hparse, rfl, hread⟩

end Report

end ContractAudit
