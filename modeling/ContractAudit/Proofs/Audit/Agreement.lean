import ContractAudit.Proofs.Audit.Refusal
import ContractAudit.Proofs.Json.Whole
import ContractAudit.Proofs.Text.Pieces

/-!
# The parts of an assessment agree

The score, the level, the metrics and the summary of an assessment are worked out one by one.  They
agree with each other and with the findings, whatever the battery of detectors has submitted: the
score is the weighted counts of the severities, the level is that of the score, and the summary says
what the metrics say.  An audit reports at least one finding and counts at least one line.

* `length_eq_counts`, `totalWeight_eq_counts` -- the number and the weight of findings by severity;
* `score_eq_counts` -- the score by severity;
* `one_le_linesOfCode` -- a source that is not blank has a line that is not blank;
* `Submission.IsValid`, `exists_audit_of_valid` -- an audit of valid submissions returns;
* `audit_agrees` -- the parts of its assessment.
-/

namespace ContractAudit

open ContractAudit.Text ContractAudit.Source

/-! ### Counts -/

theorem length_eq_counts (severities : List Severity) :
    severities.length = severities.count .critical + severities.count .high
      + severities.count .medium + severities.count .low := by
  induction severities with
  | nil => rfl
  | cons severity rest ih =>
    simp only [List.length_cons, List.count_cons, ih]
    cases severity <;> simp <;> omega

theorem totalWeight_eq_counts (severities : List Severity) :
    totalWeight severities = 30 * severities.count .critical + 20 * severities.count .high
      + 10 * severities.count .medium + 5 * severities.count .low := by
  induction severities with
  | nil => rfl
  | cons severity rest ih =>
    simp only [totalWeight, List.count_cons, ih]
    cases severity <;> simp [Severity.weight] <;> omega

/-- The score of some findings, by severity. -/
theorem score_eq_counts {severities : List Severity} (h : severities ≠ []) :
    score severities = Nat.min 100 (30 * severities.count .critical + 20 * severities.count .high
      + 10 * severities.count .medium + 5 * severities.count .low) := by
  rw [score_of_ne_nil h, totalWeight_eq_counts]
  rfl

/-- Some findings score at least as much as the lightest one. -/
theorem five_le_score {severities : List Severity} (h : severities ≠ []) : 5 ≤ score severities := by
  have hlength := length_eq_counts severities
  have hpos : 0 < severities.length := List.length_pos_iff.2 h
  rw [score_eq_counts h]
  apply Nat.le_min.2
  omega

theorem countOf_eq_count (severity : Severity) (findings : List Finding) :
    countOf severity findings = (findings.map Finding.severity).count severity := by
  rw [countOf, List.count, List.countP_map, List.countP_eq_length_filter]
  rfl

/-! ### Lines -/

theorem one_le_linesOfCode {source : Text} (h : isBlankText source = false)
    (findings : List Finding) : 1 ≤ (measure source findings).linesOfCode := by
  obtain ⟨c, hc, hvisible⟩ : ∃ c ∈ source, isBlank c = false := by
    simpa [isBlankText] using h
  have hfeed : c ≠ '\n' := by
    rintro rfl
    cases hvisible
  have hreturn : c ≠ '\r' := by
    rintro rfl
    cases hvisible
  obtain ⟨line, hline, hmem⟩ := (exists_mem_lines_iff hfeed hreturn source).2 hc
  have hcounted : line ∈ (lines source).filter fun line => !isBlankText line := by
    rw [List.mem_filter]
    refine ⟨hline, ?_⟩
    have hblank : isBlankText line = false := by
      simp only [isBlankText, List.all_eq_false]
      exact ⟨c, hmem, by simp [hvisible]⟩
    rw [hblank]
    rfl
  have hpos := List.length_pos_of_mem hcounted
  show 1 ≤ (((lines source).filter fun line => !isBlankText line).length : Int)
  omega

theorem linesOfCode_le (source : Text) (findings : List Finding) :
    (measure source findings).linesOfCode ≤ (lines source).length := by
  have hle := List.length_filter_le (fun line => !isBlankText line) (lines source)
  show (((lines source).filter fun line => !isBlankText line).length : Int) ≤ _
  omega

/-! ### What an audit returns -/

theorem Register.conclude_ne_nil (r : Register) : r.conclude ≠ [] := by
  unfold conclude
  split
  · exact List.cons_ne_nil _ _
  · rename_i hsome
    simpa using hsome

namespace Auditor

/-- An audit that returns has admitted its source, and sums up the findings of a register. -/
theorem exists_register_of_audit {a : Auditor} {source : Option Text} {mode : String}
    {result : Assessment} (h : a.audit source mode = .ok result) :
    ∃ text register, Admitted source mode text ∧
      result = assess a.thresholds text (Register.conclude register) := by
  rw [audit_eq] at h
  obtain ⟨text, htext, h⟩ := exists_of_bind_eq_ok h
  obtain ⟨visibility, -, h⟩ := exists_of_bind_eq_ok h
  obtain ⟨register, -, h⟩ := exists_of_bind_eq_ok h
  exact ⟨text, register, admitSource_eq_ok_iff.1 htext, (Except.ok.inj h).symm⟩

/-- An audit reports at least one finding. -/
theorem findings_ne_nil {a : Auditor} {source : Option Text} {mode : String}
    {result : Assessment} (h : a.audit source mode = .ok result) : result.findings ≠ [] := by
  obtain ⟨text, register, -, rfl⟩ := exists_register_of_audit h
  exact register.conclude_ne_nil

end Auditor

/-! ### Valid submissions -/

theorem Checked.both_eq_ok_iff {α β : Type} {f : Checked (α → β)} {x : Checked α} {b : β} :
    f.both x = .ok b ↔ ∃ g a, f = .ok g ∧ x = .ok a ∧ b = g a := by
  cases f <;> cases x <;> simp [Checked.both, eq_comm]

theorem Checked.under_eq_ok_iff {α : Type} {step : PathStep} {x : Checked α} {a : α} :
    x.under step = .ok a ↔ x = .ok a := by
  cases x <;> simp [Checked.under]

namespace Submission

/-- The submission names a category of the catalog and a severity of the scale, its location passes
the checks, and its note can be written. -/
structure IsValid (s : Submission) : Prop where
  category : ∃ category, s.findCategory = .ok category
  severity : ∃ value severity, s.severity = some value ∧
    Json.readName Severity.ofName? value = .ok severity
  location : ∃ location, s.findLocation = .ok location
  note : s.note.isWritable = true

/-- The first line of a location that passes is the one given, read as a number. -/
theorem readNullable_lineStart {s : Submission} {location : Location}
    (h : s.findLocation = .ok location) :
    Json.readNullable Json.readInt s.lineStart = .ok location.lineStart := by
  obtain ⟨_, _, hlines, -, rfl⟩ := Checked.both_eq_ok_iff.1 h
  obtain ⟨_, _, hstart, -, rfl⟩ := Checked.both_eq_ok_iff.1 hlines
  obtain ⟨_, _, hmake, hline, rfl⟩ := Checked.both_eq_ok_iff.1 hstart
  cases hmake
  exact Checked.under_eq_ok_iff.1 hline

/-- A line that is read can be told apart from others. -/
theorem exists_lineKey_of_readNullable {read : Json → Checked Int} (hread : Json.ReadsWhole read)
    {value : Json} {line : Option Int} (h : Json.readNullable read value = .ok line) :
    ∃ key, LineKey.ofJson value = .ok key := by
  cases value with
  | arr items =>
    obtain ⟨n, hn, -⟩ := Json.exists_of_readNullable h nofun
    exact absurd hn (hread.not_arr items n)
  | obj fields =>
    obtain ⟨n, hn, -⟩ := Json.exists_of_readNullable h nofun
    exact absurd hn (hread.not_obj fields n)
  | null => exact ⟨_, rfl⟩
  | bool b => exact ⟨_, rfl⟩
  | int n => exact ⟨_, rfl⟩
  | real x => exact ⟨_, rfl⟩
  | str text => exact ⟨_, rfl⟩

/-- A location that passes has a first line to go by. -/
theorem exists_lineKey {s : Submission} {location : Location}
    (h : s.findLocation = .ok location) : ∃ key, LineKey.ofJson s.lineStart = .ok key :=
  exists_lineKey_of_readNullable Json.readsWhole_readInt (readNullable_lineStart h)

theorem IsValid.exists_toFinding {s : Submission} (h : s.IsValid) (category : Category)
    (number : Nat) : ∃ finding, s.toFinding category number = .ok finding := by
  obtain ⟨value, severity, hnamed, hread⟩ := h.severity
  obtain ⟨location, hlocation⟩ := h.location
  simp only [toFinding, describe, h.note, hnamed, hlocation, hread]
  exact ⟨_, rfl⟩

end Submission

namespace Register

theorem exists_enter {s : Submission} (h : s.IsValid) (r : Register) :
    ∃ next, r.enter s = .ok next := by
  obtain ⟨category, hcategory⟩ := h.category
  obtain ⟨location, hlocation⟩ := h.location
  obtain ⟨key, hkey⟩ := Submission.exists_lineKey hlocation
  obtain ⟨finding, hfinding⟩ := h.exists_toFinding category (r.findings.length + 1)
  rw [enter, hcategory, ok_bind, hkey, ok_bind]
  dsimp only
  split
  · exact ⟨r, rfl⟩
  · rw [hfinding]
    exact ⟨_, rfl⟩

theorem exists_enterAll {submissions : List Submission} (h : ∀ s ∈ submissions, s.IsValid)
    (r : Register) : ∃ next, r.enterAll submissions = .ok next := by
  induction submissions generalizing r with
  | nil => exact ⟨r, rfl⟩
  | cons s rest ih =>
    obtain ⟨next, hnext⟩ := exists_enter (h s List.mem_cons_self) r
    rw [enterAll, hnext, ok_bind]
    exact ih (fun t ht => h t (List.mem_cons_of_mem s ht)) next

end Register

namespace Auditor

/-- A battery whose detectors return valid submissions is run to its end. -/
theorem exists_inspectAll {source : Text} {functions : List FunctionDef} {battery : List Detector}
    (h : ∀ detector ∈ battery, ∃ submissions,
      (detector.inspect source functions).outcome = .ok submissions ∧
        ∀ s ∈ submissions, s.IsValid) (r : Register) :
    ∃ next, (inspectAll source functions battery r).outcome = .ok next := by
  induction battery generalizing r with
  | nil => exact ⟨r, rfl⟩
  | cons detector rest ih =>
    obtain ⟨submissions, hreturns, hvalid⟩ := h detector List.mem_cons_self
    obtain ⟨next, hnext⟩ := Register.exists_enterAll hvalid r
    simp only [inspectAll, Journaled.outcome_bind, Journaled.outcome_note, Journaled.outcome_lift,
      hreturns, ok_bind, hnext]
    exact ih (fun d hd => h d (List.mem_cons_of_mem detector hd)) next

/-- **An audit of valid submissions returns.** -/
theorem exists_audit_of_valid {a : Auditor} {source : Text} {mode : String}
    {visibility : Visibility} (hadmitted : Admitted (some source) mode source)
    (hvisibility : Visibility.parse a.defaultVisibility = .ok visibility)
    (hbattery : ∀ detector ∈ a.battery, ∃ submissions,
      (detector.inspect source (functions visibility source)).outcome = .ok submissions ∧
        ∀ s ∈ submissions, s.IsValid) :
    ∃ result, a.audit (some source) mode = .ok result := by
  obtain ⟨register, hregister⟩ := exists_inspectAll hbattery .empty
  rw [audit_eq, admitSource_eq_ok_iff.2 hadmitted, ok_bind, hvisibility, ok_bind, hregister, ok_bind]
  exact ⟨_, rfl⟩

/-- **The parts of an assessment agree.**  Of every audit that returns: the total is the number of
findings and the sum of the four counts, each of which is the number of findings of that severity;
the score is the capped sum of the weighted counts, at least five because there is a finding; the
level is that of the score; at least one line is counted and no more than there are; and the summary
is the sentence with these numbers.  An audit of a source that is not blank does return when the
default visibility is known and every detector returns valid submissions. -/
theorem audit_agrees (a : Auditor) (source : Text) (mode : String) :
    (∀ result, a.audit (some source) mode = .ok result →
      let count (severity : Severity) : Nat :=
        (result.findings.map Finding.severity).count severity
      let m := result.metrics
      result.findings ≠ [] ∧
      m.totalVulnerabilities = result.findings.length ∧
      m.totalVulnerabilities = m.criticalCount + m.highCount + m.mediumCount + m.lowCount ∧
      m.criticalCount = count .critical ∧ m.highCount = count .high ∧
      m.mediumCount = count .medium ∧ m.lowCount = count .low ∧
      result.riskScore = Nat.min 100
        (30 * count .critical + 20 * count .high + 10 * count .medium + 5 * count .low) ∧
      5 ≤ result.riskScore ∧ result.riskScore ≤ 100 ∧
      result.riskLevel = a.thresholds.level result.riskScore ∧
      1 ≤ m.linesOfCode ∧ m.linesOfCode ≤ (lines source).length ∧
      result.summary = "The contract analysis indicates a " ++ result.riskLevel.label
        ++ " security posture. Found " ++ toString m.totalVulnerabilities
        ++ " potential vulnerability/vulnerabilities across " ++ toString m.linesOfCode
        ++ " lines of code. " ++ toString m.functionCount ++ " function(s) analyzed.") ∧
    ∀ visibility, Admitted (some source) mode source →
      Visibility.parse a.defaultVisibility = .ok visibility →
      (∀ detector ∈ a.battery, ∃ submissions,
        (detector.inspect source (functions visibility source)).outcome = .ok submissions ∧
          ∀ s ∈ submissions, s.IsValid) →
      ∃ result, a.audit (some source) mode = .ok result := by
  refine ⟨?_, fun visibility => exists_audit_of_valid⟩
  intro result haudit count m
  obtain ⟨text, register, hadmitted, rfl⟩ := exists_register_of_audit haudit
  obtain ⟨-, hsource, hvisible⟩ := hadmitted
  obtain rfl := Option.some.inj hsource
  have hsome := register.conclude_ne_nil
  have hseverities : register.conclude.map Finding.severity ≠ [] := by simpa using hsome
  have hcount (severity : Severity) : (countOf severity register.conclude : Int)
      = (register.conclude.map Finding.severity).count severity :=
    congrArg Nat.cast (countOf_eq_count severity register.conclude)
  have htotal := length_eq_counts (register.conclude.map Finding.severity)
  rw [List.length_map] at htotal
  refine ⟨hsome, rfl, ?_, hcount _, hcount _, hcount _, hcount _, score_eq_counts hseverities,
    five_le_score hseverities, score_le _, rfl, one_le_linesOfCode hvisible _, linesOfCode_le _ _,
    rfl⟩
  show (register.conclude.length : Int)
    = countOf .critical register.conclude + countOf .high register.conclude
      + countOf .medium register.conclude + countOf .low register.conclude
  rw [hcount, hcount, hcount, hcount]
  omega

/-- A detector that hands in two findings, one of them with its first line in writing. -/
def mixedDetector : Detector :=
  .constant "mixed"
    [⟨some (.str "reentrancy"), some (.str "critical"), .str "3", .null, .null, .null⟩,
     ⟨some (.str "overflow"), some (.str "low"), .null, .null, .str "a + b", .str "n"⟩]

theorem audit_agrees_mixedDetector :
    ∃ result, audit ⟨.strict, "public", [mixedDetector]⟩ (some "contract C".toList) "source"
        = .ok result ∧
      result.riskScore = 35 ∧ result.riskLevel = .medium ∧ result.metrics.linesOfCode = 1 := by
  have hbattery : ∀ detector ∈ [mixedDetector], ∃ submissions,
      (detector.inspect "contract C".toList (functions .public "contract C".toList)).outcome
        = .ok submissions ∧ ∀ s ∈ submissions, s.IsValid := by
    intro detector hdetector
    obtain rfl := List.mem_singleton.1 hdetector
    refine ⟨_, rfl, ?_⟩
    simp only [List.forall_mem_cons]
    exact ⟨⟨⟨.reentrancy, rfl⟩, ⟨_, .critical, rfl, rfl⟩, ⟨_, rfl⟩, rfl⟩,
      ⟨⟨.overflow, rfl⟩, ⟨_, .low, rfl, rfl⟩, ⟨_, rfl⟩, rfl⟩, List.forall_mem_nil _⟩
  obtain ⟨hagrees, hreturns⟩ :=
    audit_agrees ⟨.strict, "public", [mixedDetector]⟩ "contract C".toList "source"
  obtain ⟨result, hresult⟩ := hreturns .public ⟨by decide, rfl, by decide⟩ rfl hbattery
  obtain ⟨-, -, -, -, -, -, -, hscore, -, -, hlevel, hleast, hmost, -⟩ := hagrees result hresult
  have hseverities : (audit ⟨.strict, "public", [mixedDetector]⟩ (some "contract C".toList)
      "source").map (fun r => r.findings.map Finding.severity) = .ok [.critical, .low] := by
    rfl
  have hfound : result.findings.map Finding.severity = [.critical, .low] := by
    rw [hresult] at hseverities
    exact Except.ok.inj hseverities
  rw [hfound] at hscore
  have hthirtyFive : result.riskScore = 35 := hscore
  rw [hthirtyFive] at hlevel
  have hone : ((lines "contract C".toList).length : Int) = 1 := by decide
  exact ⟨result, hresult, hthirtyFive, hlevel, by omega⟩

end Auditor

end ContractAudit
