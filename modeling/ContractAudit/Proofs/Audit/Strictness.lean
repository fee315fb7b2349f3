import ContractAudit.Proofs.Audit.DraftKeys
import Mathlib.Data.List.Forall2
import Mathlib.Data.List.Lex

/-!
# Stricter choices never lower the risk

Of two auditors with the program's own detectors, the one with the stricter choices finds at least as
much in the same source: it looks for checks on fewer lines, counts more compiler versions as unsafe,
takes more functions to be open to callers, and has its levels begin earlier.

* `score_conclude` -- the score of a register, the finding that stands in for none included;
* `Thresholds.level_mono` -- levels that begin earlier are no lower;
* `FunctionDef.OpensUp`, `functions_opensUp` -- the functions of a source under two defaults;
* `uncheckedCalls_sublist`, `overflow_sublist`, `accessControl_sublist`, `reentrancy_eq` -- what each
  inspection writes under the two choices;
* `audit_monotone` -- the two assessments.

Drafts are compared by their severities, as sublists.  A stricter default changes the note of a draft,
but not its severity.
-/

namespace ContractAudit

open ContractAudit.Text ContractAudit.Source

/-! ### Scores and levels -/

theorem five_le_weight (severity : Severity) : 5 ≤ severity.weight := by
  cases severity <;> decide

theorem totalWeight_le_of_sublist {severities others : List Severity}
    (h : severities.Sublist others) : totalWeight severities ≤ totalWeight others := by
  induction h with
  | slnil => exact Nat.le_refl _
  | cons severity _ ih =>
    rw [totalWeight]
    omega
  | cons_cons severity _ ih =>
    rw [totalWeight, totalWeight]
    omega

/-- The finding that stands in for none weighs as much as the lightest other finding, so that a
register without findings scores no more than one with some. -/
theorem score_conclude (r : Register) :
    score (r.conclude.map Finding.severity)
      = Nat.min maxScore (Nat.max 5 (totalWeight (r.findings.map Finding.severity))) := by
  rw [Register.conclude]
  cases hfindings : r.findings with
  | nil => rfl
  | cons finding rest =>
    have hweight : 5 ≤ totalWeight ((finding :: rest).map Finding.severity) := by
      have hfirst := five_le_weight finding.severity
      rw [List.map_cons, totalWeight]
      omega
    have hmax : Nat.max 5 (totalWeight ((finding :: rest).map Finding.severity))
        = totalWeight ((finding :: rest).map Finding.severity) := Nat.max_eq_right hweight
    rw [hmax]
    rfl

theorem Thresholds.level_mono {t u : Thresholds} (hmedium : u.medium ≤ t.medium)
    (hhigh : u.high ≤ t.high) (hcritical : u.critical ≤ t.critical) {a b : Int} (h : a ≤ b) :
    t.level a ≤ u.level b := by
  show (t.level a).rank ≤ (u.level b).rank
  unfold Thresholds.level
  by_cases hc : t.critical ≤ a
  · rw [if_pos hc, if_pos (by omega)]
  · by_cases hh : t.high ≤ a
    · rw [if_neg hc, if_pos hh, if_pos (show u.high ≤ b by omega)]
      split <;> decide
    · by_cases hm : t.medium ≤ a
      · rw [if_neg hc, if_neg hh, if_pos hm, if_pos (show u.medium ≤ b by omega)]
        split
        · decide
        · split <;> decide
      · rw [if_neg hc, if_neg hh, if_neg hm]
        exact Nat.zero_le _

/-! ### The functions of a source under two defaults -/

namespace Source

/-- Whether other accounts can call what has this visibility. -/
def Visibility.IsOpen (v : Visibility) : Prop :=
  v = .public ∨ v = .external

/-- Two definitions that differ in their visibility alone, the second being open to callers if the
first is. -/
structure FunctionDef.OpensUp (f g : FunctionDef) : Prop where
  exists_eq : ∃ visibility, g = { f with visibility }
  callable : f.isExternallyCallable = true → g.isExternallyCallable = true

theorem isExternallyCallable_iff {f : FunctionDef} :
    f.isExternallyCallable = true ↔ f.visibility.IsOpen := by
  rw [FunctionDef.isExternallyCallable, Bool.or_eq_true, beq_iff_eq, beq_iff_eq]
  rfl

theorem ofSignature_opensUp {v w : Visibility} (h : v.IsOpen → w.IsOpen)
    (name signature : Text) (body : List Text) (lineStart lineEnd : Int) :
    FunctionDef.OpensUp (.ofSignature v name signature body lineStart lineEnd)
      (.ofSignature w name signature body lineStart lineEnd) := by
  refine ⟨⟨_, rfl⟩, ?_⟩
  rw [isExternallyCallable_iff, isExternallyCallable_iff]
  simp only [FunctionDef.ofSignature]
  generalize (firstWordOf? (Visibility.all.map (·.name.toList)) (qualifiers signature)).bind
    (fun w => Visibility.ofName? (String.ofList w)) = declared
  cases declared with
  | none => exact h
  | some declared => exact id

theorem recordsOf_opensUp {v w : Visibility} (h : v.IsOpen → w.IsOpen)
    (number : Nat) (stretches : List Stretch) :
    List.Forall₂ FunctionDef.OpensUp (recordsOf v number stretches)
      (recordsOf w number stretches) := by
  induction stretches generalizing number with
  | nil => exact .nil
  | cons stretch rest ih =>
    rw [recordsOf, recordsOf]
    cases stretch with
    | gap line => exact ih _
    | span fate name texts lines =>
      cases fate with
      | closed => exact .cons (ofSignature_opensUp h _ _ _ _ _) (ih _)
      | bodiless => exact ih _
      | unclosed => exact ih _

theorem functions_opensUp {v w : Visibility} (h : v.IsOpen → w.IsOpen)
    (source : Text) :
    List.Forall₂ FunctionDef.OpensUp (functions v source) (functions w source) := by
  obtain ⟨stretches, hgreedy⟩ := exists_greedy (lines source)
  rw [functions_eq_recordsOf hgreedy, functions_eq_recordsOf hgreedy]
  exact recordsOf_opensUp h 1 stretches

end Source

/-! ### The inspections under two choices -/

theorem filterMap_sublist_filterMap {α β : Type} {f g : α → Option β}
    (h : ∀ a b, f a = some b → g a = some b) (l : List α) :
    (l.filterMap f).Sublist (l.filterMap g) := by
  induction l with
  | nil => exact List.Sublist.slnil
  | cons a l ih =>
    rw [List.filterMap_cons, List.filterMap_cons]
    cases hf : f a with
    | none =>
      cases g a with
      | none => exact ih
      | some b => exact ih.cons b
    | some b =>
      rw [h a b hf]
      exact ih.cons_cons b

namespace Detector

theorem stretch_subset {items : List Text} {start : Nat} {stop stop' : Int} (hstop : 0 ≤ stop)
    (h : stop ≤ stop') : stretch items start stop ⊆ stretch items start stop' := by
  have hnear : ¬ stop < 0 := by omega
  have hfar : ¬ stop' < 0 := by omega
  simp only [stretch, if_neg hnear, if_neg hfar]
  refine (List.take_prefix_take_left ?_).subset
  omega

/-- A check that is found on fewer lines is found on more. -/
theorem isChecked_of_subset {line : Text} {scope scope' : List Text} (h : scope ⊆ scope')
    (hchecked : isChecked line scope = true) : isChecked line scope' = true := by
  rw [isChecked, Bool.or_eq_true, List.any_eq_true] at hchecked ⊢
  rcases hchecked with hinline | ⟨text, htext, hsuccess⟩
  · exact .inl hinline
  · exact .inr ⟨text, h htext, hsuccess⟩

theorem uncheckedCalls_sublist {window window' : Int} (hwindow : 0 ≤ window')
    (h : window' ≤ window) (source : Text) :
    (uncheckedCalls window source).Sublist (uncheckedCalls window' source) := by
  refine filterMap_sublist_filterMap ?_ _
  intro p draft hdraft
  obtain ⟨hcalls, hfar, hmade⟩ := uncheckedAt_eq_some_iff.1 hdraft
  have hnear : isChecked p.1 (stretch (lines source) p.2 (p.2 + window' + 1)) = false := by
    rw [← Bool.not_eq_true]
    intro hchecked
    have hmore := isChecked_of_subset (stretch_subset (by omega)
      (show (p.2 : Int) + window' + 1 ≤ p.2 + window + 1 by omega)) hchecked
    rw [hfar] at hmore
    cases hmore
  exact uncheckedAt_eq_some_iff.2 ⟨hcalls, hnear, hmade⟩

theorem overflow_sublist {safe safe' : List Int} {source : Text} {drafts drafts' : List Draft}
    (hsafe : ∀ version : Version, version.isBelow safe = true → version.isBelow safe' = true)
    (h : overflow safe source = .ok drafts) (h' : overflow safe' source = .ok drafts') :
    drafts.Sublist drafts' := by
  unfold overflow at h h'
  cases hversion : pragmaVersion source with
  | error failure =>
    rw [hversion] at h
    cases h
  | ok found =>
    rw [hversion] at h h'
    cases found with
    | none =>
      cases h
      exact List.nil_sublist _
    | some version =>
      cases h
      cases h'
      unfold overflowBelow
      by_cases hbelow : version.isBelow safe = true
      · rw [if_pos hbelow, if_pos (hsafe version hbelow)]
      · rw [if_neg hbelow]
        exact List.nil_sublist _

theorem reentrancy_eq {fs gs : List FunctionDef} (h : List.Forall₂ FunctionDef.OpensUp fs gs)
    (source : Text) : reentrancy source fs = reentrancy source gs := by
  unfold reentrancy
  induction h with
  | nil => rfl
  | cons hfg _ ih =>
    obtain ⟨visibility, rfl⟩ := hfg.exists_eq
    simp only [List.filterMap_cons] at ih ⊢
    rw [ih]
    rfl

theorem isExposed_of_opensUp {f g : FunctionDef} (h : f.OpensUp g) (hexposed : isExposed f = true) :
    isExposed g = true := by
  obtain ⟨visibility, rfl⟩ := h.exists_eq
  simp only [isExposed, Bool.and_eq_true] at hexposed ⊢
  exact ⟨⟨⟨h.callable hexposed.1.1.1, hexposed.1.1.2⟩, hexposed.1.2⟩, hexposed.2⟩

theorem accessControl_sublist {fs gs : List FunctionDef}
    (h : List.Forall₂ FunctionDef.OpensUp fs gs) :
    ((accessControl fs).map Draft.severity).Sublist ((accessControl gs).map Draft.severity) := by
  unfold accessControl
  rw [List.map_map, List.map_map]
  induction h with
  | nil => exact List.Sublist.slnil
  | @cons f g fs gs hfg _ ih =>
    by_cases hf : isExposed f = true
    · rw [List.filter_cons_of_pos hf, List.filter_cons_of_pos (isExposed_of_opensUp hfg hf)]
      obtain ⟨visibility, rfl⟩ := hfg.exists_eq
      exact ih.cons_cons _
    · rw [List.filter_cons_of_neg hf]
      by_cases hg : isExposed g = true
      · rw [List.filter_cons_of_pos hg]
        exact ih.cons _
      · rw [List.filter_cons_of_neg hg]
        exact ih

end Detector

/-- The stricter the choices, the more drafts, as far as their severities go. -/
theorem standardDrafts_sublist {window window' : Int} {safe safe' : List Int} {v w : Visibility}
    {source : Text} {unchecked unchecked' : List Draft} (hwindow : 0 ≤ window')
    (hle : window' ≤ window)
    (hsafe : ∀ version : Version, version.isBelow safe = true → version.isBelow safe' = true)
    (hopen : v.IsOpen → w.IsOpen) (h : Detector.overflow safe source = .ok unchecked)
    (h' : Detector.overflow safe' source = .ok unchecked') :
    ((standardDrafts window (functions v source) source unchecked).map Draft.severity).Sublist
      ((standardDrafts window' (functions w source) source unchecked').map Draft.severity) := by
  have hfunctions := functions_opensUp hopen source
  have hcalls := (Detector.uncheckedCalls_sublist hwindow hle source).map Draft.severity
  have hoverflow := (Detector.overflow_sublist hsafe h h').map Draft.severity
  have haccess := Detector.accessControl_sublist hfunctions
  simp only [standardDrafts, List.map_append, Detector.reentrancy_eq hfunctions source]
  exact (List.Sublist.refl _).append (hcalls.append (hoverflow.append haccess))

/-! ### Two audits -/

/-- A version that comes before another comes before every later one. -/
theorem isBelow_of_le {version v w : Version} (h : v.parts ≤ w.parts)
    (hbelow : version.isBelow (v.parts.map Int.ofNat) = true) :
    version.isBelow (w.parts.map Int.ofNat) = true := by
  have hlt : ¬ w.parts < v.parts := not_lt.2 h
  simp only [Version.isBelow, Version.parts, decide_eq_true_eq, List.map_cons, List.map_nil,
    List.cons_lt_cons_iff, List.not_lt_nil, and_false, or_false, Int.ofNat_eq_natCast]
    at hlt hbelow ⊢
  omega

namespace Auditor

/-- The choices of the first auditor are at least as strict as those of the second. -/
structure Options.AtLeastAsStrict (strict lax : Options) : Prop where
  window_nonneg : 0 ≤ strict.callCheckWindow
  window_le : strict.callCheckWindow ≤ lax.callCheckWindow
  /-- The first version with checked arithmetic is no earlier. -/
  safe_le : ∀ v w, parseVersion lax.safeArithmeticVersion = .ok v →
    parseVersion strict.safeArithmeticVersion = .ok w → v.parts ≤ w.parts
  /-- Functions that declare no visibility are open to callers if they are so for the second. -/
  default_open : ∀ v w, Visibility.parse lax.defaultVisibility = .ok v →
    Visibility.parse strict.defaultVisibility = .ok w → v.IsOpen → w.IsOpen
  /-- No level begins later. -/
  thresholds_le : ∀ t u, lax.thresholds.resolve = .ok t → strict.thresholds.resolve = .ok u →
    u.medium ≤ t.medium ∧ u.high ≤ t.high ∧ u.critical ≤ t.critical

/-- The score of an assessment of the program's own drafts, and its level. -/
theorem riskScore_eq {window : Int} {safe : List Int} {v : Visibility} {source : Text}
    {unchecked : List Draft} {thresholds : Thresholds} {result : Assessment}
    (h : Detector.overflow safe source = .ok unchecked)
    (hresult : result = assess thresholds source ((standardDrafts window (functions v source)
      source unchecked).foldl Register.addDraft .empty).conclude) :
    result.riskScore = Nat.min maxScore (Nat.max 5 (totalWeight ((standardDrafts window
        (functions v source) source unchecked).map Draft.severity))) ∧
      result.riskLevel = thresholds.level result.riskScore := by
  subst hresult
  refine ⟨?_, rfl⟩
  have hseverity (drafts : List Draft) : (drafts.zipIdx 1).map
      (Finding.severity ∘ fun p => p.1.finding p.2) = drafts.map Draft.severity := by
    conv_rhs => rw [← List.zipIdx_map_fst 1 drafts, List.map_map]
    rfl
  show score (Register.conclude _ |>.map Finding.severity) = _
  rw [score_conclude, findings_standardDrafts h, List.map_map, hseverity]

/-- **Strictness is monotone.**  Of two audits of one source with the program's own detectors, the one
with the stricter choices comes to a score and a level that are no lower. -/
theorem audit_monotone {strict lax : Options} {source : Text} {mode mode' : String}
    {result result' : Assessment} (hstrict : strict.AtLeastAsStrict lax)
    (hbattery : lax.battery = none) (hbattery' : strict.battery = none)
    (h : lax.audit (some source) mode = .ok result)
    (h' : strict.audit (some source) mode' = .ok result') :
    result.riskScore ≤ result'.riskScore ∧ result.riskLevel ≤ result'.riskLevel := by
  obtain ⟨t, v, d, unchecked, ht, hv, hd, hunchecked, hresult⟩ :=
    exists_of_audit_eq_ok hbattery h
  obtain ⟨u, w, e, unchecked', hu, hw, he, hunchecked', hresult'⟩ :=
    exists_of_audit_eq_ok hbattery' h'
  -- the severities of the one are among those of the other
  have hweight := totalWeight_le_of_sublist (standardDrafts_sublist hstrict.window_nonneg
    hstrict.window_le (fun _ => isBelow_of_le (hstrict.safe_le v w hv hw))
    (hstrict.default_open d e hd he) hunchecked hunchecked')
  obtain ⟨hscore, hlevel⟩ := riskScore_eq hunchecked hresult
  obtain ⟨hscore', hlevel'⟩ := riskScore_eq hunchecked' hresult'
  have hle : result.riskScore ≤ result'.riskScore := by
    rw [hscore, hscore']
    show min maxScore (max 5 _) ≤ min maxScore (max 5 _)
    omega
  obtain ⟨hmedium, hhigh, hcritical⟩ := hstrict.thresholds_le t u ht hu
  refine ⟨hle, ?_⟩
  rw [hlevel, hlevel']
  exact Thresholds.level_mono hmedium hhigh hcritical (Int.ofNat_le.2 hle)

/-- Choices that want a call to be checked on its own line, and whose levels begin earlier. -/
def strictChoices : Options where
  thresholds := .table "strict"
  callCheckWindow := 0
  safeArithmeticVersion := "0.9"

theorem audit_monotone_strictChoices :
    ∃ result result',
      Options.audit {} (some "a.call(b);\nrequire(ok);".toList) "source" = .ok result ∧
      strictChoices.audit (some "a.call(b);\nrequire(ok);".toList) "solidity" = .ok result' ∧
      result.riskScore ≤ result'.riskScore ∧ result.riskLevel ≤ result'.riskLevel := by
  have hstrict : strictChoices.AtLeastAsStrict {} := by
    refine ⟨by decide, by decide, ?_, ?_, ?_⟩
    · intro v w hv hw
      cases hv
      cases hw
      decide
    · intro v w hv hw _
      cases hw
      exact .inl rfl
    · intro t u ht hu
      cases ht
      cases hu
      decide
  have hlax : (Options.audit {} (some "a.call(b);\nrequire(ok);".toList) "source").isOk = true := by
    decide +kernel
  have hstrict' : (strictChoices.audit (some "a.call(b);\nrequire(ok);".toList)
      "solidity").isOk = true := by
    decide +kernel
  obtain ⟨result, h⟩ := exists_of_isOk hlax
  obtain ⟨result', h'⟩ := exists_of_isOk hstrict'
  exact ⟨result, result', h, h', audit_monotone hstrict rfl rfl h h'⟩

end Auditor

end ContractAudit
