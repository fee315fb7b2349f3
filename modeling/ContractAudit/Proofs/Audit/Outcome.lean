import ContractAudit.Audit.Auditor
import ContractAudit.Proofs.Audit.Register

/-!
# What an audit comes to

An audit is a chain of steps that may fail and keep a journal.  Here the journal is taken away, and
with the program's own detectors the chain becomes one expression: the drafts of the four
inspections, taken in one after the other, and summed up.

* `Journaled.outcome_bind` -- what comes of one step after another;
* `Inspector.draftsOf` -- what inspections write, one after the other;
* `standardDrafts` -- the same for the program's own, spelled out;
* `audit_eq` -- an audit without its journal;
* `audit_standardBattery` -- an audit with the program's own detectors, as its steps;
* `exists_of_audit_eq_ok` -- an audit that returns, with the program's own detectors.
-/

namespace ContractAudit

open ContractAudit.Source

/-! ### Chains of steps -/

@[simp]
theorem ok_bind {ε α β : Type} (a : α) (f : α → Except ε β) : (Except.ok a >>= f) = f a := rfl

/-- A chain that returns has returned at its first step. -/
theorem exists_of_bind_eq_ok {ε α β : Type} {x : Except ε α} {f : α → Except ε β} {b : β}
    (h : x >>= f = .ok b) : ∃ a, x = .ok a ∧ f a = .ok b := by
  cases x with
  | error e => cases h
  | ok a => exact ⟨a, rfl, h⟩

theorem eq_ok_of_toOption {ε α : Type} {x : Except ε α} {a : α} (h : x.toOption = some a) :
    x = .ok a := by
  cases x with
  | error e => cases h
  | ok b => exact congrArg Except.ok (Option.some.inj h)

theorem exists_of_isOk {ε α : Type} {x : Except ε α} (h : x.isOk = true) : ∃ a, x = .ok a := by
  cases x with
  | error e => cases h
  | ok a => exact ⟨a, rfl⟩

namespace Journaled

variable {α β : Type}

@[simp]
theorem outcome_pure (a : α) : (pure a : Journaled α).outcome = .ok a := rfl

@[simp]
theorem outcome_lift (outcome : Except Failure α) :
    (liftM outcome : Journaled α).outcome = outcome := rfl

@[simp]
theorem outcome_note (origin : Journal.Origin) (level : Journal.Level) (message : String) :
    (note origin level message).outcome = .ok () := rfl

@[simp]
theorem outcome_bind (work : Journaled α) (next : α → Journaled β) :
    (work >>= next).outcome = work.outcome >>= fun a => (next a).outcome := by
  show (Journaled.bind work next).outcome = _
  unfold Journaled.bind
  cases work.outcome <;> rfl

end Journaled

/-! ### Inspections -/

/-- What inspections write about a source, one after the other. -/
def Inspector.draftsOf (source : Text) (functions : List FunctionDef) :
    List Inspector → Except Failure (List Draft)
  | [] => .ok []
  | inspector :: rest => do
    let drafts ← (inspector.inspect source functions).outcome
    let later ← draftsOf source functions rest
    return drafts ++ later

/-- **Inspections that run as detectors** have their drafts added in order. -/
theorem outcome_inspectAll (source : Text) (functions : List FunctionDef)
    (inspectors : List Inspector) (r : Register) :
    (Auditor.inspectAll source functions (inspectors.map Inspector.toDetector) r).outcome
      = Inspector.draftsOf source functions inspectors >>= fun drafts =>
          .ok (drafts.foldl Register.addDraft r) := by
  induction inspectors generalizing r with
  | nil => rfl
  | cons inspector rest ih =>
    simp only [List.map_cons, Auditor.inspectAll, Inspector.toDetector, Inspector.draftsOf,
      Journaled.outcome_bind, Journaled.outcome_pure, Journaled.outcome_note,
      Journaled.outcome_lift]
    cases (inspector.inspect source functions).outcome with
    | error failure => rfl
    | ok drafts =>
      simp only [ok_bind, Register.enterAll_submit, ih]
      cases Inspector.draftsOf source functions rest with
      | error failure => rfl
      | ok later =>
        show Except.ok _ = Except.ok ((drafts ++ later).foldl Register.addDraft r)
        rw [List.foldl_append]

/-- The drafts of the program's own inspections, given those about arithmetic. -/
def standardDrafts (window : Int) (functions : List FunctionDef) (source : Text)
    (unchecked : List Draft) : List Draft :=
  Detector.reentrancy source functions ++ (Detector.uncheckedCalls window source
    ++ (unchecked ++ Detector.accessControl functions))

theorem outcome_overflow (safe : List Int) (source : Text) (functions : List FunctionDef) :
    ((Inspector.overflow safe).inspect source functions).outcome
      = Detector.overflow safe source := by
  simp only [Inspector.overflow, Journaled.outcome_bind, Journaled.outcome_lift]
  cases Detector.overflow safe source with
  | error failure => rfl
  | ok drafts =>
    rw [ok_bind]
    split <;> rfl

theorem draftsOf_inspectors {window : Int} {safe : List Int} (hsafe : safe ≠ []) (source : Text)
    (functions : List FunctionDef) :
    Inspector.draftsOf source functions (inspectors window safe)
      = Detector.overflow safe source >>= fun unchecked =>
          .ok (standardDrafts window functions source unchecked) := by
  have hempty : ¬ safe.isEmpty = true := by simpa using hsafe
  simp only [inspectors, Inspector.draftsOf, outcome_overflow, if_neg hempty,
    Journaled.outcome_pure, ok_bind]
  cases Detector.overflow safe source with
  | error failure => rfl
  | ok unchecked =>
    show Except.ok _ = Except.ok _
    rw [standardDrafts, List.append_nil]

/-! ### Audits -/

namespace Auditor

/-- An audit without its journal. -/
theorem audit_eq (a : Auditor) (source : Option Text) (mode : String) :
    a.audit source mode = (do
      let text ← admitSource source mode
      let visibility ← Visibility.parse a.defaultVisibility
      let register ← (inspectAll text (functions visibility text) a.battery .empty).outcome
      return assess a.thresholds text register.conclude) := by
  simp only [audit, run, Journaled.outcome_bind, Journaled.outcome_lift, Journaled.outcome_note,
    Journaled.outcome_pure]
  rfl

theorem eq_of_admitSource_eq_ok {source text : Text} {mode : String}
    (h : admitSource (some source) mode = .ok text) : text = source := by
  unfold admitSource at h
  split at h
  · cases h
  · split at h
    · cases h
    · dsimp only at h
      split at h
      · cases h
      · exact (Except.ok.inj h).symm

/-- An audit by the auditor of the given choices. -/
def Options.audit (o : Options) (source : Option Text) (mode : String) :
    Except Failure Assessment := do
  let a ← ofOptions o
  a.audit source mode

/-- The auditor of choices that ask for the program's own detectors. -/
theorem exists_of_ofOptions_eq_ok {o : Options} {a : Auditor} (hbattery : o.battery = none)
    (h : ofOptions o = .ok a) :
    ∃ thresholds version, o.thresholds.resolve = .ok thresholds ∧
      parseVersion o.safeArithmeticVersion = .ok version ∧
      a = ⟨thresholds, o.defaultVisibility,
        standardBattery o.callCheckWindow (version.parts.map Int.ofNat)⟩ := by
  rw [ofOptions] at h
  obtain ⟨thresholds, hthresholds, hchosen⟩ := exists_of_bind_eq_ok h
  rw [hbattery] at hchosen
  obtain ⟨version, hversion, hmade⟩ := exists_of_bind_eq_ok hchosen
  exact ⟨thresholds, version, hthresholds, hversion, (Except.ok.inj hmade).symm⟩

/-- **An audit with the program's own detectors**, as its steps. -/
theorem audit_standardBattery (thresholds : Thresholds) (name : String) (window : Int)
    (version : Version) (source : Option Text) (mode : String) :
    audit ⟨thresholds, name, standardBattery window (version.parts.map Int.ofNat)⟩ source mode
      = (do
        let text ← admitSource source mode
        let visibility ← Visibility.parse name
        let unchecked ← Detector.overflow (version.parts.map Int.ofNat) text
        return assess thresholds text ((standardDrafts window (functions visibility text) text
          unchecked).foldl Register.addDraft .empty).conclude) := by
  have hsafe : version.parts.map Int.ofNat ≠ [] := by simp [Version.parts]
  simp only [audit_eq, standardBattery, outcome_inspectAll, draftsOf_inspectors hsafe, bind_assoc,
    ok_bind]

/-- **An audit that returns**, with the program's own detectors: every choice has been read, and the
assessment is that of the four inspections. -/
theorem exists_of_audit_eq_ok {o : Options} {source : Text} {mode : String} {result : Assessment}
    (hbattery : o.battery = none) (h : o.audit (some source) mode = .ok result) :
    ∃ thresholds version visibility unchecked,
      o.thresholds.resolve = .ok thresholds ∧
      parseVersion o.safeArithmeticVersion = .ok version ∧
      Visibility.parse o.defaultVisibility = .ok visibility ∧
      Detector.overflow (version.parts.map Int.ofNat) source = .ok unchecked ∧
      result = assess thresholds source ((standardDrafts o.callCheckWindow
        (functions visibility source) source unchecked).foldl Register.addDraft .empty).conclude := by
  obtain ⟨a, ha, haudit⟩ := exists_of_bind_eq_ok h
  obtain ⟨thresholds, version, hthresholds, hversion, rfl⟩ := exists_of_ofOptions_eq_ok hbattery ha
  rw [audit_standardBattery] at haudit
  obtain ⟨text, htext, hadmitted⟩ := exists_of_bind_eq_ok haudit
  obtain ⟨visibility, hvisibility, hparsed⟩ := exists_of_bind_eq_ok hadmitted
  obtain ⟨unchecked, hunchecked, hassessed⟩ := exists_of_bind_eq_ok hparsed
  obtain rfl := eq_of_admitSource_eq_ok htext
  exact ⟨thresholds, version, visibility, unchecked, hthresholds, hversion, hvisibility,
    hunchecked, (Except.ok.inj hassessed).symm⟩

end Auditor

end ContractAudit
