import ContractAudit.Proofs.Audit.AlikeDrafts
import ContractAudit.Proofs.Audit.Outcome
import ContractAudit.Proofs.Source.Placement

/-!
# The keys of the program's own drafts

A register drops a draft whose title and first line are known.  The program's own inspections never
write two such drafts: each writes drafts of one category, in the order of their first lines, and no
two of them share a category.

* `Ascending` -- drafts of one category whose first lines ascend;
* `reentrancy_ascending`, `uncheckedCalls_ascending`, `overflow_ascending`,
  `accessControl_ascending` -- the four inspections;
* `nodup_keys_standardDrafts` -- all their drafts together;
* `findings_standardDrafts` -- so all of them become findings;
* `audit_drops_no_draft` -- and an audit reports as many findings as there are drafts.

For the inspections that go by functions this rests on where functions stand: no two of them share
a line.
-/

namespace ContractAudit

open ContractAudit.Text ContractAudit.Source

/-- Drafts of one category, in the order of their first lines. -/
structure Ascending (category : Category) (drafts : List Draft) : Prop where
  category_eq : ∀ d ∈ drafts, d.category = category
  lineStart_lt : drafts.Pairwise fun d e => d.lineStart < e.lineStart

theorem Ascending.nodup_keys {category : Category} {drafts : List Draft}
    (h : Ascending category drafts) : (drafts.map Draft.key).Nodup := by
  refine List.pairwise_map.2 (h.lineStart_lt.imp fun {d e} hlt heq => ?_)
  simp only [Draft.key, Prod.mk.injEq, LineKey.whole.injEq] at heq
  omega

/-- Drafts of different categories have different titles, so that only drafts of one category can
share a key. -/
theorem nodup_keys_flatMap {groups : List (Category × List Draft)}
    (hcategories : (groups.map Prod.fst).Nodup) (h : ∀ group ∈ groups, Ascending group.1 group.2) :
    ((groups.flatMap Prod.snd).map Draft.key).Nodup := by
  induction groups with
  | nil => exact List.nodup_nil
  | cons group groups ih =>
    rw [List.map_cons, List.nodup_cons] at hcategories
    have hgroup := h group List.mem_cons_self
    have hlater : ∀ other ∈ groups, Ascending other.1 other.2 :=
      fun other hother => h other (List.mem_cons_of_mem group hother)
    rw [List.flatMap_cons, List.map_append, List.nodup_append]
    refine ⟨hgroup.nodup_keys, ih hcategories.2 hlater, ?_⟩
    intro key hkey other hother heq
    obtain ⟨d, hd, rfl⟩ := List.mem_map.1 hkey
    obtain ⟨e, he, rfl⟩ := List.mem_map.1 hother
    obtain ⟨next, hnext, he⟩ := List.mem_flatMap.1 he
    rw [Draft.key, Draft.key, Prod.mk.injEq] at heq
    have hsame : group.1 = next.1 := by
      rw [← hgroup.category_eq d hd, ← (hlater next hnext).category_eq e he]
      exact Category.title_injective heq.1
    apply hcategories.1
    rw [hsame]
    exact List.mem_map_of_mem hnext

/-! ### The four inspections -/

namespace Detector

theorem reentrancy_ascending (default : Visibility) (source : Text) :
    Ascending .reentrancy (reentrancy source (functions default source)) := by
  constructor
  · intro d hd
    rw [reentrancy, List.mem_filterMap] at hd
    obtain ⟨f, -, hf⟩ := hd
    obtain ⟨found, -, rfl⟩ := Option.map_eq_some_iff.1 hf
    rfl
  · -- a call stands inside its function, and functions stand one behind the other
    have hinside : (functions default source).Pairwise fun f g =>
        ∀ p ∈ f.numberedLines, ∀ q ∈ g.numberedLines, p.1 < q.1 := by
      refine (functions_pairwise default source).imp_of_mem fun {f g} hf hg hlt p hp q hq => ?_
      have hp' := (bounds_of_mem_functions hf).2 p hp
      have hq' := (bounds_of_mem_functions hg).2 q hq
      omega
    refine hinside.filterMap _ fun f g hlt d hd e he => ?_
    obtain ⟨⟨call, write⟩, hcall, rfl⟩ := Option.map_eq_some_iff.1 hd
    obtain ⟨⟨call', write'⟩, hcall', rfl⟩ := Option.map_eq_some_iff.1 he
    have hmem := List.mem_of_mem_filter (mem_of_callThenWrite? hcall).1
    have hmem' := List.mem_of_mem_filter (mem_of_callThenWrite? hcall').1
    exact hlt call hmem call' hmem'

theorem uncheckedCalls_ascending (window : Int) (source : Text) :
    Ascending .uncheckedCall (uncheckedCalls window source) := by
  constructor
  · intro d hd
    obtain ⟨i, line, -, -, -, rfl⟩ := mem_uncheckedCalls_iff.1 hd
    rfl
  · have hindex : (lines source).zipIdx.Pairwise fun p q => p.2 < q.2 := by
      rw [← List.pairwise_map, List.zipIdx_map_snd]
      exact List.pairwise_lt_range'
    refine hindex.filterMap _ fun p q hlt d hd e he => ?_
    obtain ⟨-, -, rfl⟩ := uncheckedAt_eq_some_iff.1 hd
    obtain ⟨-, -, rfl⟩ := uncheckedAt_eq_some_iff.1 he
    show ((p.2 : Int) + 1) < (q.2 : Int) + 1
    omega

theorem overflow_ascending {safe : List Int} {source : Text} {drafts : List Draft}
    (h : overflow safe source = .ok drafts) : Ascending .overflow drafts := by
  have hnil : Ascending .overflow [] := ⟨by simp, List.Pairwise.nil⟩
  rw [overflow] at h
  split at h
  · cases h
  · cases h
    exact hnil
  · cases h
    rw [overflowBelow]
    split
    · split
      · exact ⟨fun d hd => by rw [List.mem_singleton.1 hd]; rfl, List.pairwise_singleton _ _⟩
      · exact hnil
    · exact hnil

theorem accessControl_ascending (default : Visibility) (source : Text) :
    Ascending .accessControl (accessControl (functions default source)) := by
  constructor
  · intro d hd
    rw [accessControl, List.mem_map] at hd
    obtain ⟨f, -, rfl⟩ := hd
    rfl
  · have hstart : (functions default source).Pairwise fun f g => f.lineStart < g.lineStart := by
      refine (functions_pairwise default source).imp_of_mem fun {f g} hf hg hlt => ?_
      have hf' := (bounds_of_mem_functions hf).1
      omega
    exact List.pairwise_map.2 (hstart.filter _)

end Detector

/-! ### All of them -/

/-- The drafts of the program's own inspections, by category. -/
def standardGroups (window : Int) (functions : List FunctionDef) (source : Text)
    (unchecked : List Draft) : List (Category × List Draft) :=
  [(.reentrancy, Detector.reentrancy source functions),
   (.uncheckedCall, Detector.uncheckedCalls window source),
   (.overflow, unchecked),
   (.accessControl, Detector.accessControl functions)]

theorem standardDrafts_eq_flatMap (window : Int) (functions : List FunctionDef) (source : Text)
    (unchecked : List Draft) :
    standardDrafts window functions source unchecked
      = (standardGroups window functions source unchecked).flatMap Prod.snd := by
  simp [standardDrafts, standardGroups]

/-- **No two drafts go by the same key.** -/
theorem nodup_keys_standardDrafts {window : Int} {safe : List Int} {default : Visibility}
    {source : Text} {unchecked : List Draft}
    (h : Detector.overflow safe source = .ok unchecked) :
    ((standardDrafts window (functions default source) source unchecked).map
      Draft.key).Nodup := by
  rw [standardDrafts_eq_flatMap]
  refine nodup_keys_flatMap ?_ ?_
  · show [Category.reentrancy, .uncheckedCall, .overflow, .accessControl].Nodup
    decide
  · simp only [standardGroups, List.forall_mem_cons]
    exact ⟨Detector.reentrancy_ascending default source,
      Detector.uncheckedCalls_ascending window source, Detector.overflow_ascending h,
      Detector.accessControl_ascending default source, List.forall_mem_nil _⟩

/-- **All of them become findings**, numbered in order. -/
theorem findings_standardDrafts {window : Int} {safe : List Int} {default : Visibility}
    {source : Text} {unchecked : List Draft}
    (h : Detector.overflow safe source = .ok unchecked) :
    ((standardDrafts window (functions default source) source unchecked).foldl
        Register.addDraft .empty).findings
      = ((standardDrafts window (functions default source) source unchecked).zipIdx 1).map
          fun p => p.1.finding p.2 := by
  have hnew : ∀ d ∈ standardDrafts window (functions default source) source unchecked,
      d.key ∉ Register.empty.keys := fun d _ => List.not_mem_nil
  rw [Register.findings_foldl_addDraft hnew (nodup_keys_standardDrafts h)]
  rfl

/-! ### Nothing is dropped -/

theorem length_standardDrafts (window : Int) (functions : List FunctionDef) (source : Text)
    (unchecked : List Draft) :
    (standardDrafts window functions source unchecked).length
      = (Detector.reentrancy source functions).length
        + (Detector.uncheckedCalls window source).length + unchecked.length
        + (Detector.accessControl functions).length := by
  simp only [standardDrafts, List.length_append]
  omega

/-- What a register concludes from the program's own drafts: one finding for each of them, and the
one that says that there are none in place of no finding at all. -/
theorem conclude_standardDrafts {window : Int} {safe : List Int} {default : Visibility}
    {source : Text} {unchecked : List Draft}
    (h : Detector.overflow safe source = .ok unchecked) :
    ((standardDrafts window (functions default source) source unchecked).foldl
        Register.addDraft .empty).conclude
      = if standardDrafts window (functions default source) source unchecked = [] then
          [Register.nothingFound]
        else ((standardDrafts window (functions default source) source unchecked).zipIdx 1).map
          fun p => p.1.finding p.2 := by
  rw [Register.conclude, findings_standardDrafts h]
  simp only [List.isEmpty_iff, List.map_eq_nil_iff, List.zipIdx_eq_nil_iff]

/-- Drafts that go by different keys differ in their title or in their first line. -/
theorem nodup_titles_and_lines {drafts : List Draft} (h : (drafts.map Draft.key).Nodup) :
    (drafts.map fun d => (d.category.title, d.lineStart)).Nodup := by
  have hkeys : drafts.map Draft.key
      = (drafts.map fun d => (d.category.title, d.lineStart)).map
          fun p => (p.1, LineKey.whole p.2) := by
    rw [List.map_map]
    rfl
  rw [hkeys] at h
  exact h.of_map _

namespace Auditor

/-- **No draft is dropped.**  In an audit with the program's own detectors, no two drafts share their
title and their first line; so there are as many findings as there are drafts, and the one that says
that nothing was found stands only where there is no draft. -/
theorem audit_drops_no_draft {o : Options} {source : Text} {mode : String} {result : Assessment}
    (hbattery : o.battery = none) (h : o.audit (some source) mode = .ok result) :
    ∃ visibility version unchecked,
      Visibility.parse o.defaultVisibility = .ok visibility ∧
      parseVersion o.safeArithmeticVersion = .ok version ∧
      Detector.overflow (version.parts.map Int.ofNat) source = .ok unchecked ∧
      ((standardDrafts o.callCheckWindow (functions visibility source) source unchecked).map
        fun d => (d.category.title, d.lineStart)).Nodup ∧
      let total := (Detector.reentrancy source (functions visibility source)).length
        + (Detector.uncheckedCalls o.callCheckWindow source).length + unchecked.length
        + (Detector.accessControl (functions visibility source)).length
      (0 < total → result.findings.length = total) ∧
      (total = 0 → result.findings = [Register.nothingFound]) := by
  obtain ⟨thresholds, version, visibility, unchecked, -, hversion, hvisibility, hunchecked, rfl⟩ :=
    exists_of_audit_eq_ok hbattery h
  refine ⟨visibility, version, unchecked, hvisibility, hversion, hunchecked,
    nodup_titles_and_lines (nodup_keys_standardDrafts hunchecked), ?_⟩
  rw [← length_standardDrafts]
  simp only [assess, conclude_standardDrafts hunchecked, List.length_pos_iff,
    List.length_eq_zero_iff]
  constructor
  · intro hne
    rw [if_neg hne, List.length_map, List.length_zipIdx]
  · intro hnil
    rw [if_pos hnil]

/-- A source in which each of the program's own inspections finds something: a payment before a step
of a counter, in a function that anyone may call, under an old compiler. -/
def payout : Text :=
  "pragma solidity ^0.7.0;\nfunction pay() public \x7b\nto.call(x);\npaid += 1;\n\x7d".toList

theorem audit_drops_no_draft_payout :
    ∃ result visibility unchecked, Options.audit {} (some payout) "source" = .ok result ∧
      Detector.overflow [0, 8, 0] payout = .ok unchecked ∧
      0 < (standardDrafts 5 (functions visibility payout) payout unchecked).length ∧
      result.findings.length
        = (standardDrafts 5 (functions visibility payout) payout unchecked).length := by
  have hok : (Options.audit {} (some payout) "source").isOk = true := by
    decide +kernel
  obtain ⟨result, h⟩ := exists_of_isOk hok
  obtain ⟨visibility, version, unchecked, hvisibility, hversion, hunchecked, -, hsome, -⟩ :=
    audit_drops_no_draft rfl h
  cases hvisibility
  cases hversion
  -- the call is found whatever the others find
  have hcall : 0 < (Detector.uncheckedCalls 5 payout).length := by
    decide +kernel
  rw [← length_standardDrafts] at hsome
  have hpos : 0 < (standardDrafts 5 (functions .public payout) payout unchecked).length := by
    rw [length_standardDrafts]
    omega
  exact ⟨result, .public, unchecked, h, hunchecked, hpos, hsome hpos⟩

end Auditor

end ContractAudit
