import ContractAudit.Failure
import ContractAudit.Audit.Severity

/-!
# Scores and risk levels

The score of a list of findings is the sum of their weights, at most one hundred; an empty list
scores ten.  A table of thresholds turns a score into a risk level: the highest level whose
threshold the score reaches.

* `score` -- the score of a list of severities;
* `Thresholds` -- three ascending scores above zero and at most one hundred;
* `Thresholds.level` -- the risk level of a score;
* `ThresholdChoice.resolve` -- a table by its name or by its numbers.
-/

namespace ContractAudit

/-- The highest score. -/
def maxScore : Nat := 100

/-- The score of an empty list. -/
def baselineScore : Nat := 10

/-- The weights of a list of severities together. -/
def totalWeight : List Severity → Nat
  | [] => 0
  | severity :: rest => severity.weight + totalWeight rest

/-- The score of a list of severities. -/
def score (severities : List Severity) : Nat :=
  if severities.isEmpty then baselineScore else Nat.min maxScore (totalWeight severities)

theorem score_of_ne_nil {severities : List Severity} (h : severities ≠ []) :
    score severities = Nat.min maxScore (totalWeight severities) := by
  rw [score, if_neg (mt List.isEmpty_iff.1 h)]

/-- No score is above the highest. -/
theorem score_le (severities : List Severity) : score severities ≤ 100 := by
  unfold score
  split
  · decide
  · exact Nat.min_le_left maxScore (totalWeight severities)

/-! ### Thresholds -/

/-- The scores at which the levels above low begin. -/
structure Thresholds where
  medium : Int
  high : Int
  critical : Int
  medium_pos : 0 < medium
  medium_lt_high : medium < high
  high_lt_critical : high < critical
  critical_le : critical ≤ 100

namespace Thresholds

/-- The table that is used unless another one is asked for. -/
def standard : Thresholds :=
  ⟨25, 50, 70, by decide, by decide, by decide, by decide⟩

/-- The table whose levels begin earlier. -/
def strict : Thresholds :=
  ⟨20, 40, 65, by decide, by decide, by decide, by decide⟩

/-- The table of the given numbers, when they form one. -/
def ofList (values : List Int) : Except Failure Thresholds :=
  match values with
  | [medium, high, critical] =>
    if h : 0 < medium ∧ medium < high ∧ high < critical ∧ critical ≤ 100 then
      .ok ⟨medium, high, critical, h.1, h.2.1, h.2.2.1, h.2.2.2⟩
    else .error (.badThresholds values)
  | _ => .error (.badThresholds values)

/-- The table of the given name. -/
def ofName (name : String) : Except Failure Thresholds :=
  if name = "standard" then .ok standard
  else if name = "strict" then .ok strict
  else .error (.unknownTable name)

/-- The three numbers in order. -/
def values (t : Thresholds) : List Int :=
  [t.medium, t.high, t.critical]

/-- The risk level of a score. -/
def level (t : Thresholds) (score : Int) : RiskLevel :=
  if t.critical ≤ score then .critical
  else if t.high ≤ score then .high
  else if t.medium ≤ score then .medium
  else .low

end Thresholds

/-- A table of thresholds, by name or by its numbers. -/
inductive ThresholdChoice where
  | table (name : String)
  | scores (values : List Int)

/-- The table that is meant. -/
def ThresholdChoice.resolve : ThresholdChoice → Except Failure Thresholds
  | table name => Thresholds.ofName name
  | scores values => Thresholds.ofList values

/-- How the risk level of the given name reads in a summary. -/
def levelLabel (name : String) : Except Failure String :=
  match Severity.ofName? name with
  | some level => .ok level.label
  | none => .error (.unknownLevel name)

end ContractAudit
