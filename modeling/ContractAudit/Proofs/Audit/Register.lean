import ContractAudit.Audit.Admission
import Mathlib.Data.List.Nodup

/-!
# Drafts in the register

The program's own drafts always pass the check, so that a register takes them in without failing: a
draft whose title and first line are known changes nothing, and any other becomes the next finding.

* `Draft.key`, `Draft.finding` -- what a draft goes by, and the finding that it becomes;
* `Register.addDraft` -- one more draft, without checks;
* `enterAll_submit` -- entering submitted drafts is adding them;
* `findings_foldl_addDraft` -- drafts that go by different keys all become findings, numbered in order.
-/

namespace ContractAudit

namespace Draft

/-- What the draft goes by. -/
def key (d : Draft) : String × LineKey :=
  (d.category.title, .whole d.lineStart)

/-- The draft as a finding with its number. -/
def finding (d : Draft) (number : Nat) : Finding where
  id := d.category.key ++ "-" ++ toString number
  title := d.category.title
  severity := d.severity
  description := d.category.description ++ d.submit.remark
  location := ⟨some d.lineStart, some d.lineEnd, some (String.ofList d.snippet)⟩
  suggestedFix := d.category.remediation

end Draft

theorem Category.ofKey?_key (category : Category) : ofKey? category.key = some category := by
  cases category <;> decide

theorem Severity.ofName?_name (severity : Severity) : ofName? severity.name = some severity := by
  cases severity <;> decide

theorem Severity.readName_name (severity : Severity) :
    Json.readName ofName? (.str severity.name) = .ok severity := by
  simp only [Json.readName, ofName?_name]

theorem Category.title_injective : Function.Injective title := by
  intro a b h
  cases a <;> cases b <;> first | rfl | exact absurd h (by decide)

theorem findCategory_submit (d : Draft) : d.submit.findCategory = .ok d.category := by
  simp only [Submission.findCategory, Draft.submit, Category.ofKey?_key]

theorem findLocation_submit (d : Draft) :
    d.submit.findLocation
      = .ok ⟨some d.lineStart, some d.lineEnd, some (String.ofList d.snippet)⟩ := by
  rfl

/-- The note of a draft is text, which can always be written. -/
theorem describe_submit (d : Draft) :
    d.submit.describe d.category = .ok (d.category.description ++ d.submit.remark) := by
  have hnote : d.submit.note.isWritable = true := by
    rw [Draft.submit]
    cases d.note <;> rfl
  rw [Submission.describe, if_pos hnote]

theorem toFinding_submit (d : Draft) (number : Nat) :
    d.submit.toFinding d.category number = .ok (d.finding number) := by
  have hnamed : d.submit.severity = some (.str d.severity.name) := rfl
  simp only [Submission.toFinding, describe_submit, hnamed, findLocation_submit,
    Severity.readName_name]
  rfl

namespace Register

/-- One more draft. -/
def addDraft (r : Register) (d : Draft) : Register :=
  if r.keys.contains d.key then r
  else ⟨r.findings ++ [d.finding (r.findings.length + 1)], d.key :: r.keys⟩

/-- **A draft is never refused.** -/
theorem enter_submit (r : Register) (d : Draft) : r.enter d.submit = .ok (r.addDraft d) := by
  have hline : LineKey.ofJson d.submit.lineStart = .ok (.whole d.lineStart) := rfl
  have hfinding := toFinding_submit d (r.findings.length + 1)
  rw [enter, findCategory_submit, hline, addDraft]
  show (if r.keys.contains d.key then _ else _) = _
  split
  · rfl
  · rw [hfinding]
    rfl

theorem enterAll_submit (r : Register) (drafts : List Draft) :
    r.enterAll (drafts.map Draft.submit) = .ok (drafts.foldl addDraft r) := by
  induction drafts generalizing r with
  | nil => rfl
  | cons d drafts ih =>
    rw [List.map_cons, enterAll, enter_submit, List.foldl_cons, ← ih]
    rfl

theorem addDraft_of_not_mem {r : Register} {d : Draft} (h : d.key ∉ r.keys) :
    r.addDraft d = ⟨r.findings ++ [d.finding (r.findings.length + 1)], d.key :: r.keys⟩ := by
  rw [addDraft, if_neg]
  rwa [List.contains_iff_mem]

/-- **Nothing is dropped when the keys differ.**  Each draft becomes a finding, under the next
number. -/
theorem findings_foldl_addDraft {drafts : List Draft} {r : Register}
    (hnew : ∀ d ∈ drafts, d.key ∉ r.keys) (hkeys : (drafts.map Draft.key).Nodup) :
    (drafts.foldl addDraft r).findings
      = r.findings ++ (drafts.zipIdx (r.findings.length + 1)).map fun p => p.1.finding p.2 := by
  induction drafts generalizing r with
  | nil => simp
  | cons d drafts ih =>
    rw [List.map_cons, List.nodup_cons] at hkeys
    have hlater : ∀ e ∈ drafts, e.key ∉ (r.addDraft d).keys := by
      intro e he
      rw [addDraft_of_not_mem (hnew d List.mem_cons_self), List.mem_cons, not_or]
      refine ⟨fun heq => hkeys.1 ?_, hnew e (List.mem_cons_of_mem d he)⟩
      rw [← heq]
      exact List.mem_map_of_mem he
    rw [List.foldl_cons, ih hlater hkeys.2, addDraft_of_not_mem (hnew d List.mem_cons_self)]
    simp

end Register

end ContractAudit
