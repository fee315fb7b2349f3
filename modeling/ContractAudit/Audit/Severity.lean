/-!
# Severities

The scale from low to critical.  A finding has a severity, and a contract as a whole has a risk
level on the same scale.

* `Severity` -- the scale, ordered by `Severity.rank`;
* `Severity.weight` -- what a finding adds to the score;
* `Severity.label` -- how a risk level reads in a summary.
-/

namespace ContractAudit

/-- The scale of severities. -/
inductive Severity where
  | low
  | medium
  | high
  | critical
  deriving DecidableEq, Repr

/-- The risk level of a whole contract, on the scale of severities. -/
abbrev RiskLevel := Severity

namespace Severity

/-- The place on the scale, counted from zero. -/
def rank : Severity → Nat
  | low => 0
  | medium => 1
  | high => 2
  | critical => 3

instance : LE Severity := ⟨fun a b => a.rank ≤ b.rank⟩

instance (a b : Severity) : Decidable (a ≤ b) := inferInstanceAs (Decidable (a.rank ≤ b.rank))

/-- All severities, the lowest first. -/
def all : List Severity := [low, medium, high, critical]

/-- The name of a severity. -/
def name : Severity → String
  | low => "low"
  | medium => "medium"
  | high => "high"
  | critical => "critical"

/-- The name in capitals. -/
def title : Severity → String
  | low => "LOW"
  | medium => "MEDIUM"
  | high => "HIGH"
  | critical => "CRITICAL"

/-- The severity with the given name. -/
def ofName? (s : String) : Option Severity :=
  all.find? fun v => v.name == s

/-- What a finding of this severity adds to the score. -/
def weight : Severity → Nat
  | low => 5
  | medium => 10
  | high => 20
  | critical => 30

/-- How a risk level reads in a summary. -/
def label : Severity → String
  | low => "relatively secure"
  | medium => "moderately risky"
  | high => "highly risky"
  | critical => "critically vulnerable"

/-- Whether a finding has to be dealt with first. -/
def isSerious (s : Severity) : Bool :=
  s == high || s == critical

end Severity

end ContractAudit
