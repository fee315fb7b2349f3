import ContractAudit.Proofs.Audit.Strictness
import Mathlib.Logic.Relation

/-!
# Findings that escalate

A list of findings escalates when a finding is put in anywhere or when one gets more severe.  Its score and
its risk level can only rise then, and the order of the findings makes no difference to either.

* `scoreOf` -- the score of some findings;
* `Escalates` -- one insertion, or one finding that gets more severe;
* `Escalates.totalWeight_le`, `totalWeight_le_of_run` -- what one such change and any number of them do to
  the weight;
* `totalWeight_perm` -- the weight in another order;
* `baseline_le_score_iff` -- when some findings score at least as much as none;
* `score_level_ordered` -- score and level under an accepted table of thresholds.

The law has one boundary.  An empty list scores ten, twice the weight of a low finding: no findings score
more than a single low one, and no more than any other list.
-/

namespace ContractAudit

/-! ### Changes of a list of findings -/

/-- The score of some findings. -/
def scoreOf (findings : List Finding) : Nat :=
  score (findings.map Finding.severity)

/-- One change for the worse. -/
inductive Escalates : List Finding → List Finding → Prop where
  /-- A finding is put in at any place. -/
  | insert (front back : List Finding) (finding : Finding) :
      Escalates (front ++ back) (front ++ finding :: back)
  /-- A finding gets more severe and is the same otherwise. -/
  | raise (front back : List Finding) (finding : Finding) (severity : Severity)
      (h : finding.severity ≤ severity) :
      Escalates (front ++ finding :: back) (front ++ { finding with severity } :: back)

/-! ### Weights -/

theorem Severity.weight_mono {a b : Severity} (h : a ≤ b) : a.weight ≤ b.weight := by
  revert h
  cases a <;> cases b <;> decide

theorem totalWeight_append (severities others : List Severity) :
    totalWeight (severities ++ others) = totalWeight severities + totalWeight others := by
  induction severities with
  | nil => exact (Nat.zero_add _).symm
  | cons severity rest ih =>
    rw [List.cons_append, totalWeight, totalWeight, ih, Nat.add_assoc]

theorem totalWeight_perm {severities others : List Severity} (h : severities.Perm others) :
    totalWeight severities = totalWeight others := by
  induction h with
  | nil => rfl
  | cons severity _ ih => rw [totalWeight, totalWeight, ih]
  | swap a b rest =>
    simp only [totalWeight]
    omega
  | trans _ _ ih ih' => exact ih.trans ih'

variable {xs ys : List Finding}

/-- One change never lowers the weight. -/
theorem Escalates.totalWeight_le (h : Escalates xs ys) :
    totalWeight (xs.map Finding.severity) ≤ totalWeight (ys.map Finding.severity) := by
  cases h with
  | insert front back finding =>
    apply totalWeight_le_of_sublist
    exact (List.Sublist.append_left (List.sublist_cons_self finding back) front).map _
  | raise front back finding severity h =>
    have hweight := Severity.weight_mono h
    simp only [List.map_append, List.map_cons, totalWeight_append, totalWeight]
    omega

/-- After a change there is a finding. -/
theorem Escalates.ne_nil (h : Escalates xs ys) : ys ≠ [] := by
  cases h <;> exact List.append_ne_nil_of_right_ne_nil _ (List.cons_ne_nil _ _)

/-- Any number of changes never lowers the weight. -/
theorem totalWeight_le_of_run (h : Relation.ReflTransGen Escalates xs ys) :
    totalWeight (xs.map Finding.severity) ≤ totalWeight (ys.map Finding.severity) := by
  induction h with
  | refl => exact Nat.le_refl _
  | tail _ hstep ih => exact Nat.le_trans ih hstep.totalWeight_le

theorem ne_nil_of_run (hxs : xs ≠ []) (h : Relation.ReflTransGen Escalates xs ys) : ys ≠ [] := by
  cases h with
  | refl => exact hxs
  | tail _ hstep => exact hstep.ne_nil

/-! ### Scores -/

theorem scoreOf_perm (h : xs.Perm ys) : scoreOf ys = scoreOf xs := by
  have hseverities := h.map Finding.severity
  rw [scoreOf, scoreOf, score, score, totalWeight_perm hseverities, hseverities.isEmpty_eq]

/-- Changes for the worse never lower the score of findings that there are. -/
theorem scoreOf_le_of_run (hxs : xs ≠ []) (h : Relation.ReflTransGen Escalates xs ys) :
    scoreOf xs ≤ scoreOf ys := by
  have hxs' : xs.map Finding.severity ≠ [] := by simpa using hxs
  have hys' : ys.map Finding.severity ≠ [] := by simpa using ne_nil_of_run hxs h
  rw [scoreOf, scoreOf, score_of_ne_nil hxs', score_of_ne_nil hys']
  have hweight := totalWeight_le_of_run h
  exact Nat.le_min.2 ⟨Nat.min_le_left _ _, Nat.le_trans (Nat.min_le_right _ _) hweight⟩

/-- **The boundary.**  Of the lists with findings, only a single low one scores less than none. -/
theorem baseline_le_score_iff {severities : List Severity} (h : severities ≠ []) :
    score [] ≤ score severities ↔ severities ≠ [.low] := by
  cases severities with
  | nil => exact absurd rfl h
  | cons severity rest =>
    cases rest with
    | nil => cases severity <;> decide
    | cons next more =>
      -- two findings weigh as much as an empty list scores, whatever they are
      have hfirst := five_le_weight severity
      have hnext := five_le_weight next
      have hweight : baselineScore ≤ totalWeight (severity :: next :: more) := by
        rw [totalWeight, totalWeight, baselineScore]
        omega
      have hle : score [] ≤ score (severity :: next :: more) := by
        rw [score_of_ne_nil h]
        exact Nat.le_min.2 ⟨by decide, hweight⟩
      constructor
      · intro _ hsingle
        cases hsingle
      · intro _
        exact hle

/-! ### Levels -/

namespace Thresholds

variable (t : Thresholds)

theorem level_zero : t.level 0 = .low := by
  have hmedium := t.medium_pos
  have hhigh := t.medium_lt_high
  have hcritical := t.high_lt_critical
  rw [level, if_neg (by omega), if_neg (by omega), if_neg (by omega)]

theorem level_maxScore : t.level 100 = .critical := by
  rw [level, if_pos t.critical_le]

theorem level_le {a b : Nat} (h : a ≤ b) : t.level a ≤ t.level b :=
  level_mono (Int.le_refl _) (Int.le_refl _) (Int.le_refl _) (Int.ofNat_le.2 h)

end Thresholds

/-- **Score and level are ordered as the findings are.**  Under every accepted table of thresholds: another
order of the findings changes neither score nor level; findings that escalate, in any number of changes,
have a score and a level that are no lower, the score being at most one hundred; an empty list is
outscored or equalled by every other one but a single low finding; and the levels run from low at zero to
critical at one hundred. -/
theorem score_level_ordered (choice : ThresholdChoice) (t : Thresholds) :
    choice.resolve = .ok t →
    (∀ xs ys : List Finding, xs.Perm ys →
      scoreOf ys = scoreOf xs ∧ t.level (scoreOf ys) = t.level (scoreOf xs)) ∧
    (∀ xs ys : List Finding, xs ≠ [] → Relation.ReflTransGen Escalates xs ys →
      scoreOf xs ≤ scoreOf ys ∧ scoreOf ys ≤ 100 ∧
        t.level (scoreOf xs) ≤ t.level (scoreOf ys)) ∧
    (∀ ys : List Finding, ys ≠ [] →
      (scoreOf [] ≤ scoreOf ys ↔ ys.map Finding.severity ≠ [.low])) ∧
    t.level 0 = .low ∧ t.level 100 = .critical := by
  intro _
  refine ⟨?_, ?_, ?_, t.level_zero, t.level_maxScore⟩
  · intro xs ys hperm
    exact ⟨scoreOf_perm hperm, by rw [scoreOf_perm hperm]⟩
  · intro xs ys hxs hrun
    have hle := scoreOf_le_of_run hxs hrun
    exact ⟨hle, score_le _, t.level_le hle⟩
  · intro ys hys
    exact baseline_le_score_iff (by simpa using hys)

/-- A finding of which only the severity is known. -/
def bareFinding (severity : Severity) : Finding :=
  ⟨"", "", severity, "", .empty, ""⟩

/-- A low finding gets critical and a medium one is put in behind it; under a table of its own this leads
from low to high. -/
theorem score_level_ordered_lateThresholds :
    ∃ t, (ThresholdChoice.scores [10, 30, 90]).resolve = .ok t ∧
      Relation.ReflTransGen Escalates [bareFinding .low] [bareFinding .critical, bareFinding .medium] ∧
      (scoreOf [bareFinding .low] = 5 ∧
        scoreOf [bareFinding .critical, bareFinding .medium] = 40 ∧
        scoreOf [bareFinding .low] ≤ scoreOf [bareFinding .critical, bareFinding .medium] ∧
        t.level (scoreOf [bareFinding .low]) ≤
          t.level (scoreOf [bareFinding .critical, bareFinding .medium])) ∧
      scoreOf [bareFinding .medium, bareFinding .critical]
        = scoreOf [bareFinding .critical, bareFinding .medium] ∧
      scoreOf [] ≤ scoreOf [bareFinding .low, bareFinding .low] ∧
      ¬ scoreOf [] ≤ scoreOf [bareFinding .low] := by
  have hrun : Relation.ReflTransGen Escalates [bareFinding .low]
      [bareFinding .critical, bareFinding .medium] := by
    apply Relation.ReflTransGen.tail (.single (.raise [] [] (bareFinding .low) .critical (by decide)))
    exact .insert [bareFinding .critical] [] (bareFinding .medium)
  obtain ⟨hperm, hrise, hbase, -, -⟩ := score_level_ordered (.scores [10, 30, 90]) _ rfl
  obtain ⟨hscore, -, hlevel⟩ := hrise _ _ (by decide) hrun
  refine ⟨_, rfl, hrun, ⟨by decide, by decide, hscore, hlevel⟩, ?_, ?_, ?_⟩
  · exact (hperm _ _ (.swap _ _ [])).1
  · exact (hbase _ (by decide)).2 (by decide)
  · intro hle
    exact (hbase _ (by decide)).1 hle rfl

end ContractAudit
