import ContractAudit.Proofs.Audit.Outcome
import ContractAudit.Proofs.Audit.Stored
import ContractAudit.Proofs.Source.Pragma

/-!
# When an audit fails

With the program's own detectors three steps of an audit can fail, one after the other: a source has
to be admitted, the default visibility has to be known, and the version that the source names has to
be read.  Everything else returns for every text.

* `audit_eq_of_standard` -- an audit as these three steps and what comes of them;
* `Admitted`, `admitSource_eq_ok_iff`, `admitSource_eq_error_iff` -- the first step;
* `Visibility.exists_parse_iff`, `Visibility.parse_eq_error_iff` -- the second one;
* `audit_eq_error_iff` -- the failures of an audit, all of them;
* `audit_outcome` -- which failure there is for which source, mode and visibility.

The third step is `Source.pragmaVersion_eq_error_iff`.
-/

namespace ContractAudit

open ContractAudit.Text ContractAudit.Source

/-- A chain fails at its first step or behind it. -/
theorem bind_eq_error_iff {ε α β : Type} {x : Except ε α} {f : α → Except ε β} {e : ε} :
    x >>= f = .error e ↔ x = .error e ∨ ∃ a, x = .ok a ∧ f a = .error e := by
  cases x <;> simp [bind, Except.bind]

theorem bind_pure_eq_error_iff {ε α β : Type} {x : Except ε α} {f : α → β} {e : ε} :
    (x >>= fun a => pure (f a)) = .error e ↔ x = .error e := by
  cases x <;> simp [bind, Except.bind, pure, Except.pure]

/-! ### The three steps -/

theorem Source.Visibility.exists_parse_iff {name : String} :
    (∃ visibility, parse name = .ok visibility) ↔ name ∈ all.map Visibility.name := by
  unfold parse
  cases hfound : ofName? name with
  | none => simpa [ofName?] using hfound
  | some visibility =>
    have hname := List.find?_some hfound
    have hmem := List.mem_of_find?_eq_some hfound
    simp only [Except.ok.injEq, exists_eq', true_iff]
    exact List.mem_map.2 ⟨visibility, hmem, eq_of_beq hname⟩

theorem Source.Visibility.parse_eq_error_iff {name : String} {failure : Failure} :
    parse name = .error failure
      ↔ name ∉ all.map Visibility.name ∧ failure = .unknownVisibility name := by
  rw [← exists_parse_iff]
  unfold parse
  cases ofName? name <;> simp [eq_comm]

namespace Auditor

/-- The source is a text that is not blank, and the mode says that it is one. -/
def Admitted (source : Option Text) (mode : String) (text : Text) : Prop :=
  mode ∈ ["source", "solidity"] ∧ source = some text ∧ isBlankText text = false

theorem admitSource_address (source : Option Text) :
    admitSource source "address" = .error .addressLookup := rfl

theorem admitSource_of_not_mem {mode : String} (hmode : mode ∉ ["address", "source", "solidity"])
    (source : Option Text) : admitSource source mode = .error (.unknownMode mode) := by
  obtain ⟨haddress, hother⟩ : mode ≠ "address" ∧ mode ≠ "source" ∧ mode ≠ "solidity" := by
    simpa using hmode
  unfold admitSource
  rw [if_neg haddress, if_pos hother]

theorem admitSource_of_mem {mode : String} (hmode : mode ∈ ["source", "solidity"])
    (source : Option Text) :
    admitSource source mode = source.elim (.error .emptySource) fun text =>
      if isBlankText text then .error .emptySource else .ok text := by
  obtain rfl | rfl : mode = "source" ∨ mode = "solidity" := by simpa using hmode
  all_goals cases source <;> rfl

/-- A mode names an address, or nothing, or a source. -/
theorem mode_cases (mode : String) :
    mode = "address" ∨ mode ∉ ["address", "source", "solidity"] ∨ mode ∈ ["source", "solidity"] := by
  by_cases haddress : mode = "address"
  · exact .inl haddress
  · by_cases hmode : mode ∈ ["source", "solidity"]
    · exact .inr (.inr hmode)
    · exact .inr (.inl fun h => (List.mem_cons.1 h).elim haddress hmode)

theorem admitSource_eq_ok_iff {source : Option Text} {mode : String} {text : Text} :
    admitSource source mode = .ok text ↔ Admitted source mode text := by
  unfold Admitted
  rcases mode_cases mode with rfl | hmode | hmode
  · simp [admitSource_address]
  · have hother : mode ∉ ["source", "solidity"] := fun h => hmode (List.mem_cons_of_mem _ h)
    simp only [admitSource_of_not_mem hmode, hother, false_and, reduceCtorEq]
  · rw [admitSource_of_mem hmode]
    cases source with
    | none => simp
    | some s =>
      simp only [hmode, true_and, Option.some.injEq, Option.elim_some]
      constructor
      · intro h
        split at h
        · cases h
        · rename_i hblank
          cases h
          exact ⟨rfl, by simpa using hblank⟩
      · rintro ⟨rfl, hblank⟩
        simp [hblank]

theorem admitSource_eq_error_iff {source : Option Text} {mode : String} {failure : Failure} :
    admitSource source mode = .error failure
      ↔ (mode = "address" ∧ failure = .addressLookup)
        ∨ (mode ∉ ["address", "source", "solidity"] ∧ failure = .unknownMode mode)
        ∨ (mode ∈ ["source", "solidity"] ∧ (∀ text, source = some text → isBlankText text = true) ∧
            failure = .emptySource) := by
  rcases mode_cases mode with rfl | hmode | hmode
  · simp [admitSource_address, @eq_comm _ failure]
  · have haddress : mode ≠ "address" := fun h => hmode (List.mem_cons.2 (.inl h))
    have hother : mode ∉ ["source", "solidity"] := fun h => hmode (List.mem_cons_of_mem _ h)
    simp [admitSource_of_not_mem hmode, hother, hmode, haddress, @eq_comm _ failure]
  · have haddress : mode ≠ "address" := by
      rintro rfl
      simp at hmode
    have hknown : mode ∈ ["address", "source", "solidity"] := List.mem_cons_of_mem _ hmode
    simp only [admitSource_of_mem hmode, haddress, hmode, hknown, @eq_comm _ failure, true_and,
      false_and, false_or, not_true_eq_false]
    cases source with
    | none => simp
    | some s => cases hblank : isBlankText s <;> simp [hblank]

theorem overflow_eq (safe : List Int) (source : Text) :
    Detector.overflow safe source = pragmaVersion source >>= fun version =>
      .ok (version.elim [] (Detector.overflowBelow safe source)) := by
  unfold Detector.overflow
  cases pragmaVersion source with
  | error failure => rfl
  | ok version => cases version <;> rfl

/-! ### Audits -/

/-- **An audit with the program's own detectors** is three steps that can fail, and what comes of
them. -/
theorem audit_eq_of_standard {o : Options} {a : Auditor} (hbattery : o.battery = none)
    (ha : ofOptions o = .ok a) :
    ∃ safe, ∀ source mode, a.audit source mode = (do
      let text ← admitSource source mode
      let visibility ← Visibility.parse a.defaultVisibility
      let version ← pragmaVersion text
      return assess a.thresholds text ((standardDrafts o.callCheckWindow (functions visibility text)
        text (version.elim [] (Detector.overflowBelow safe text))).foldl Register.addDraft
          .empty).conclude) := by
  obtain ⟨thresholds, version, -, -, rfl⟩ := exists_of_ofOptions_eq_ok hbattery ha
  refine ⟨version.parts.map Int.ofNat, fun source mode => ?_⟩
  simp only [audit_standardBattery, overflow_eq, bind_assoc, ok_bind]

section Standard

variable {o : Options} {a : Auditor}

/-- The failures of an audit. -/
theorem audit_eq_error_iff (hbattery : o.battery = none) (ha : ofOptions o = .ok a)
    {source : Option Text} {mode : String} {failure : Failure} :
    a.audit source mode = .error failure
      ↔ admitSource source mode = .error failure
        ∨ ∃ text, Admitted source mode text ∧
          ((a.defaultVisibility ∉ Visibility.all.map Visibility.name ∧
              failure = .unknownVisibility a.defaultVisibility)
            ∨ (a.defaultVisibility ∈ Visibility.all.map Visibility.name ∧
              ∃ n, failure = .longNumber n ∧ NamesLongNumber text n)) := by
  obtain ⟨safe, haudit⟩ := audit_eq_of_standard hbattery ha
  rw [haudit, bind_eq_error_iff]
  refine or_congr Iff.rfl (exists_congr fun text => ?_)
  rw [admitSource_eq_ok_iff, bind_eq_error_iff, Visibility.parse_eq_error_iff,
    ← Visibility.exists_parse_iff]
  simp only [bind_pure_eq_error_iff, pragmaVersion_eq_error_iff, exists_and_right]

/-- The audits that return. -/
theorem exists_audit_iff (hbattery : o.battery = none) (ha : ofOptions o = .ok a)
    {source : Option Text} {mode : String} :
    (∃ result, a.audit source mode = .ok result)
      ↔ ∃ text, Admitted source mode text ∧
        a.defaultVisibility ∈ Visibility.all.map Visibility.name ∧
        ∀ n, ¬ NamesLongNumber text n := by
  obtain ⟨safe, haudit⟩ := audit_eq_of_standard hbattery ha
  constructor
  · rintro ⟨result, hresult⟩
    rw [haudit] at hresult
    obtain ⟨text, htext, hadmitted⟩ := exists_of_bind_eq_ok hresult
    obtain ⟨visibility, hvisibility, hparsed⟩ := exists_of_bind_eq_ok hadmitted
    obtain ⟨version, hversion, -⟩ := exists_of_bind_eq_ok hparsed
    refine ⟨text, admitSource_eq_ok_iff.1 htext,
      Visibility.exists_parse_iff.1 ⟨visibility, hvisibility⟩, fun n hlong => ?_⟩
    have hfails := pragmaVersion_eq_error_iff.2 ⟨n, rfl, hlong⟩
    rw [hversion] at hfails
    cases hfails
  · rintro ⟨text, htext, hname, hshort⟩
    obtain ⟨visibility, hvisibility⟩ := Visibility.exists_parse_iff.2 hname
    cases hversion : pragmaVersion text with
    | error failure =>
      obtain ⟨n, -, hlong⟩ := pragmaVersion_eq_error_iff.1 hversion
      exact absurd hlong (hshort n)
    | ok version =>
      rw [haudit, admitSource_eq_ok_iff.2 htext, ok_bind, hvisibility, ok_bind, hversion, ok_bind]
      exact ⟨_, rfl⟩

/-- **When an audit fails, and when it returns.**  One of the six conditions holds, and it tells
what comes of the audit; what it returns passes the checks of a stored assessment. -/
theorem audit_outcome (hbattery : o.battery = none) (ha : ofOptions o = .ok a)
    (source : Option Text) (mode : String) :
    (a.audit source mode = .error .addressLookup ↔ mode = "address") ∧
    (a.audit source mode = .error (.unknownMode mode)
      ↔ mode ∉ ["address", "source", "solidity"]) ∧
    (a.audit source mode = .error .emptySource
      ↔ mode ∈ ["source", "solidity"] ∧ ∀ text, source = some text → isBlankText text = true) ∧
    (a.audit source mode = .error (.unknownVisibility a.defaultVisibility)
      ↔ (∃ text, Admitted source mode text) ∧
        a.defaultVisibility ∉ ["public", "external", "internal", "private"]) ∧
    (∀ n, a.audit source mode = .error (.longNumber n)
      ↔ ∃ text, Admitted source mode text ∧
        a.defaultVisibility ∈ ["public", "external", "internal", "private"] ∧
        NamesLongNumber text n) ∧
    ((∃ result, a.audit source mode = .ok result ∧ Assessment.read result.toJson = .ok result)
      ↔ ∃ text, Admitted source mode text ∧
        a.defaultVisibility ∈ ["public", "external", "internal", "private"] ∧
        ∀ n, ¬ NamesLongNumber text n) := by
  have hnames : ["public", "external", "internal", "private"]
      = Visibility.all.map Visibility.name := rfl
  have hfails (failure : Failure) : a.audit source mode = .error failure ↔ _ :=
    audit_eq_error_iff hbattery ha
  simp only [admitSource_eq_error_iff] at hfails
  -- of the causes of a failure all but the one in question drop out
  rw [hnames]
  refine ⟨?_, ?_, ?_, ?_, fun n => ?_, ?_⟩
  · simp [hfails]
  · simp [hfails]
  · simp [hfails]
  · simp [hfails]
  · simp [hfails]
  · simp only [Assessment.read_toJson, and_true]
    exact exists_audit_iff hbattery ha

end Standard

/-- A pragma that names a version whose first row has one digit too many. -/
def longPragma : Text :=
  "pragma solidity ".toList ++ (List.replicate 4301 '7' ++ ".0;".toList)

theorem audit_outcome_longPragma :
    ∃ a, ofOptions {} = .ok a ∧ a.audit (some longPragma) "source" = .error (.longNumber 4301) := by
  have ha : ofOptions {} = .ok ⟨.standard, "public", standardBattery standardWindow [0, 8, 0]⟩ := rfl
  have hlong : (((firstPragma? longPragma).bind firstVersion?).map fun digits =>
      ((digitRowsOf digits).map List.length).find? fun length => decide (4300 < length))
        = some (some 4301) := by
    decide +kernel
  obtain ⟨digits, hdigits, hrow⟩ := Option.map_eq_some_iff.1 hlong
  obtain ⟨body, hbody, hversion⟩ := Option.bind_eq_some_iff.1 hdigits
  have hnames : NamesLongNumber longPragma 4301 :=
    ⟨body, digits, firstPragma?_eq_some_iff.1 hbody, firstVersion?_eq_some_iff.1 hversion, hrow⟩
  have hadmitted : Admitted (some longPragma) "source" longPragma :=
    ⟨by decide, rfl, by decide +kernel⟩
  obtain ⟨-, -, -, -, hfails, -⟩ := audit_outcome rfl ha (some longPragma) "source"
  exact ⟨_, ha, (hfails 4301).2 ⟨longPragma, hadmitted, by decide, hnames⟩⟩

end Auditor

end ContractAudit
