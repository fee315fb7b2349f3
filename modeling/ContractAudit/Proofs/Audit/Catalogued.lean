import ContractAudit.Proofs.Audit.Quotation
import ContractAudit.Proofs.Report.Reference

/-!
# Findings belong to the catalog

The title of a finding and the key in front of its id come from one category, whatever the detectors
of an audit submit: a submission without a category of the catalog ends the audit.

* `Finding.IsOf` -- title and id belong to a category;
* `Register.enter_isCatalogued` -- **step**: one submission;
* `Auditor.inspectAll_isCatalogued` -- **run**: a battery of any detectors;
* `Auditor.audit_isCatalogued` -- an audit.
-/

namespace ContractAudit

open ContractAudit.Text ContractAudit.Source

/-! ### Findings of a category -/

/-- The finding has the title of the category, and an id with its key in front. -/
def Finding.IsOf (f : Finding) (category : Category) : Prop :=
  f.title = category.title ∧ ∃ number : Nat, f.id = category.key ++ "-" ++ toString number

theorem Finding.IsOf.categoryKey_eq {f : Finding} {category : Category} (h : f.IsOf category) :
    f.categoryKey = category.key := by
  obtain ⟨-, number, hid⟩ := h
  exact Finding.categoryKey_eq hid

theorem isOf_of_toFinding {s : Submission} {category : Category} {number : Nat} {f : Finding}
    (h : s.toFinding category number = .ok f) : f.IsOf category := by
  rw [Submission.toFinding] at h
  obtain ⟨description, -, h⟩ := exists_of_bind_eq_ok h
  split at h
  · cases h
  · obtain ⟨location, -, hlocated⟩ := exists_of_bind_eq_ok h
    obtain ⟨severity, -, hmade⟩ := exists_of_bind_eq_ok hlocated
    cases hmade
    exact ⟨rfl, number, rfl⟩

namespace Register

/-- Every finding of the register is of a category. -/
def IsCatalogued (r : Register) : Prop :=
  ∀ f ∈ r.findings, ∃ category, f.IsOf category

/-- **Step.**  One more submission. -/
theorem enter_isCatalogued {r next : Register} {s : Submission} (hr : r.IsCatalogued)
    (h : r.enter s = .ok next) : next.IsCatalogued := by
  rw [enter] at h
  obtain ⟨category, -, hcategory⟩ := exists_of_bind_eq_ok h
  obtain ⟨line, -, hline⟩ := exists_of_bind_eq_ok hcategory
  dsimp only at hline
  split at hline
  · cases hline
    exact hr
  · obtain ⟨f, hf, hmade⟩ := exists_of_bind_eq_ok hline
    cases hmade
    intro g hg
    rcases List.mem_append.1 hg with hold | hnew
    · exact hr g hold
    · rw [List.mem_singleton.1 hnew]
      exact ⟨category, isOf_of_toFinding hf⟩

theorem enterAll_isCatalogued {r next : Register} {submissions : List Submission}
    (hr : r.IsCatalogued) (h : r.enterAll submissions = .ok next) : next.IsCatalogued := by
  induction submissions generalizing r with
  | nil =>
    cases h
    exact hr
  | cons s rest ih =>
    obtain ⟨middle, hmiddle, hrest⟩ := exists_of_bind_eq_ok h
    exact ih (enter_isCatalogued hr hmiddle) hrest

theorem conclude_isCatalogued {r : Register} (hr : r.IsCatalogued) :
    ∀ f ∈ r.conclude, ∃ category, f.IsOf category := by
  rw [conclude]
  split
  · rw [List.forall_mem_singleton]
    exact ⟨.info, rfl, 1, rfl⟩
  · exact hr

end Register

namespace Auditor

/-- **Run.**  A battery of any detectors. -/
theorem inspectAll_isCatalogued {source : Text} {functions : List FunctionDef}
    {battery : List Detector} {r next : Register} (hr : r.IsCatalogued)
    (h : (inspectAll source functions battery r).outcome = .ok next) : next.IsCatalogued := by
  induction battery generalizing r with
  | nil =>
    cases h
    exact hr
  | cons detector rest ih =>
    simp only [inspectAll, Journaled.outcome_bind, Journaled.outcome_note,
      Journaled.outcome_lift, ok_bind] at h
    obtain ⟨submissions, -, hsubmitted⟩ := exists_of_bind_eq_ok h
    obtain ⟨middle, hmiddle, hrest⟩ := exists_of_bind_eq_ok hsubmitted
    exact ih (Register.enterAll_isCatalogued hr hmiddle) hrest

/-- **The findings of an audit are of a category**, whatever its detectors. -/
theorem audit_isCatalogued {a : Auditor} {source : Option Text} {mode : String}
    {result : Assessment} (h : a.audit source mode = .ok result) :
    ∀ f ∈ result.findings, ∃ category, f.IsOf category := by
  rw [audit_eq] at h
  obtain ⟨text, -, htext⟩ := exists_of_bind_eq_ok h
  obtain ⟨visibility, -, hvisibility⟩ := exists_of_bind_eq_ok htext
  obtain ⟨register, hregister, hmade⟩ := exists_of_bind_eq_ok hvisibility
  cases hmade
  have hempty : Register.empty.IsCatalogued := List.forall_mem_nil _
  exact Register.conclude_isCatalogued (inspectAll_isCatalogued hempty hregister)

end Auditor

end ContractAudit
