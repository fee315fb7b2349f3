import ContractAudit.Proofs.Audit.AlikeDrafts
import ContractAudit.Proofs.Audit.DraftKeys
import ContractAudit.Proofs.Audit.Refusal

/-!
# Sources further down

With `k` line feeds in front, a source stands `k` lines further down.  An audit with the program's own
detectors then comes to the same, with every line number larger by `k`, whether it is the location of a
finding or quoted in its description.

* `lowered` -- the text behind `k` line feeds;
* `lines_lowered`, `functions_lowered` -- its lines and its functions;
* `Draft.Moved` -- drafts that differ by `k` lines, and the four detectors: `reentrancy_moved`,
  `uncheckedCalls_moved`, `overflowBelow_moved`, `accessControl_moved`;
* `Finding.Moved` -- findings that differ by `k` lines;
* `audit_moves_with_source` -- the audit.

The window in which a check of a call is looked for must not be negative here, since a negative bound
counts from the end of the source.
-/

namespace ContractAudit

open ContractAudit.Text ContractAudit.Source

/-! ### Line feeds in front -/

namespace Text

/-- The text behind `k` line feeds. -/
def lowered (k : Nat) (s : Text) : Text :=
  List.replicate k '\n' ++ s

theorem MarginFree.lowered_eq {β : Type} {ask : Text → β} (h : MarginFree ask) (k : Nat) (s : Text) :
    ask (lowered k s) = ask s := by
  refine h.blanks_append (fun c hc => ?_) s
  rw [List.eq_of_mem_replicate hc]
  decide

theorem lines_lowered (k : Nat) (s : Text) : lines (lowered k s) = List.replicate k [] ++ lines s := by
  induction k with
  | zero => rfl
  | succ k ih =>
    have hcut : lines (lowered (k + 1) s) = [] :: lines (lowered k s) := rfl
    rw [hcut, ih, List.replicate_succ, List.cons_append]

end Text

namespace Source

theorem marginFree_pragmaVersion : MarginFree pragmaVersion := by
  intro c hc s
  have hbody : pragmaBody? (c :: s) = none := by
    have hne : 'p' ≠ c := by
      rintro rfl
      cases hc
    have hafter : after? "pragma".toList (c :: s) = none := by
      show (if 'p' = c then _ else none) = none
      rw [if_neg hne]
    rw [pragmaBody?, hafter]
  have hfirst : firstPragma? (c :: s) = firstPragma? s := by
    rw [firstPragma?, firstAt?, hbody]
  rw [pragmaVersion, hfirst, pragmaVersion]

/-- Empty lines open no function. -/
theorem scanFrom_replicate (default : Visibility) (number k : Nat) (ls : List Text) :
    scanFrom default number none (List.replicate k [] ++ ls)
      = scanFrom default (number + k) none ls := by
  induction k generalizing number with
  | zero => rfl
  | succ k ih =>
    have hline : scanLine default number none [] = (none, none) := rfl
    have hnumber : number + 1 + k = number + (k + 1) := by omega
    rw [List.replicate_succ, List.cons_append, scanFrom, hline, ih, hnumber]
    rfl

theorem ReadsAlike.of_eq {line other : Text} (h : line = other) : ReadsAlike line other :=
  .of_dropWhile_eq (congrArg _ h)

theorem functions_lowered (default : Visibility) (k : Nat) (s : Text) :
    List.Forall₂ (FunctionDef.Alike k Eq) (functions default s) (functions default (lowered k s)) := by
  have hlines : List.Forall₂ Eq (lines s) (lines s) := List.forall₂_same.2 fun _ _ => rfl
  have halike := functionsFrom_alike (fun _ _ h => .of_eq h) hlines default k
  rwa [← scanFrom_replicate, ← lines_lowered, ← functions_eq] at halike

end Source

/-! ### Drafts -/

/-- The second draft says the same as the first about lines that are `k` further down. -/
structure Draft.Moved (k : Nat) (d e : Draft) : Prop where
  category_eq : e.category = d.category
  severity_eq : e.severity = d.severity
  lineStart_eq : e.lineStart = d.lineStart + k
  lineEnd_eq : e.lineEnd = d.lineEnd + k
  snippet_eq : e.snippet = d.snippet
  note_eq : d.category ≠ .reentrancy → e.note = d.note
  quoted : d.category = .reentrancy → ∃ name guarded,
    d.note = some (Detector.reentrancyNote name d.lineStart d.lineEnd guarded) ∧
    e.note = some (Detector.reentrancyNote name e.lineStart e.lineEnd guarded)

namespace Detector

/-- Lines in front move a stretch that does not count from the end. -/
theorem stretch_append {α : Type} (front items : List α) (start : Nat) {stop : Int} (hstop : 0 ≤ stop) :
    stretch (front ++ items) (start + front.length) (stop + front.length)
      = stretch items start stop := by
  have hbound : ¬ stop < 0 := by omega
  have hbound' : ¬ stop + front.length < 0 := by omega
  have hdrop : (front ++ items).drop (start + front.length) = items.drop start := by
    rw [Nat.add_comm, List.drop_length_add_append]
  simp only [stretch, if_neg hbound, if_neg hbound', hdrop]
  congr 1
  rw [List.length_append]
  omega

theorem firstArithmetic?_add (k number : Nat) (ls : List Text) :
    firstArithmetic? (number + k) ls
      = (firstArithmetic? number ls).map fun found => (found.1 + k, found.2) := by
  induction ls generalizing number with
  | nil => rfl
  | cons line ls ih =>
    have hnext : number + k + 1 = number + 1 + k := by omega
    rw [firstArithmetic?, firstArithmetic?]
    split
    · rfl
    · rw [hnext, ih]

theorem firstArithmetic?_replicate (k number : Nat) (ls : List Text) :
    firstArithmetic? number (List.replicate k [] ++ ls) = firstArithmetic? (number + k) ls := by
  induction k generalizing number with
  | zero => rfl
  | succ k ih =>
    have hline : hasArithmetic [] = false := by decide
    have hnumber : number + 1 + k = number + (k + 1) := by omega
    rw [List.replicate_succ, List.cons_append, firstArithmetic?, hline, if_neg Bool.false_ne_true, ih,
      hnumber]

variable (default : Visibility) (k : Nat) (s : Text)

theorem isGuarded_lowered : isGuarded (lowered k s) = isGuarded s :=
  Idiom.spacingFree_reentrancyGuard.margin.lowered_eq k s

theorem reentrancy_moved :
    List.Forall₂ (Draft.Moved k) (reentrancy s (functions default s))
      (reentrancy (lowered k s) (functions default (lowered k s))) := by
  refine reentrancy_alike (fun _ _ h => .of_eq h) (functions_lowered default k s)
    fun name found found' hcall hwrite => ?_
  rw [isGuarded_lowered]
  refine ⟨rfl, rfl, hcall.1, hwrite.1, ?_, fun h => absurd rfl h, fun _ => ⟨name, _, rfl, rfl⟩⟩
  rw [reentrancyDraft, reentrancyDraft, hcall.2, hwrite.2]

theorem accessControl_moved :
    List.Forall₂ (Draft.Moved k) (accessControl (functions default s))
      (accessControl (functions default (lowered k s))) := by
  have hfunctions := (functions_lowered default k s).imp fun f g hfg =>
    And.intro hfg (And.intro (changesState_eq (fun _ _ h => .of_eq h) hfg)
      (hfg.ask_body (fun _ _ h => congrArg _ h) spacingFree_checks))
  refine accessControl_alike hfunctions fun f g hfg => ?_
  refine ⟨rfl, ?_, hfg.lineStart_eq, hfg.lineEnd_eq, congrArg trim hfg.firstLine.symm, fun _ => ?_,
    fun h => by cases h⟩
  · rw [exposedDraft, exposedDraft, hfg.payable_eq]
  · rw [exposedDraft, exposedDraft, hfg.payable_eq, hfg.name_eq, hfg.visibility_eq]

theorem uncheckedCalls_moved {window : Int} (hwindow : 0 ≤ window) :
    List.Forall₂ (Draft.Moved k) (uncheckedCalls window s) (uncheckedCalls window (lowered k s)) := by
  have hfront : ((List.replicate k []).zipIdx).filterMap
      (uncheckedAt window (List.replicate k [] ++ lines s)) = [] := by
    refine List.filterMap_eq_nil_iff.2 fun p hp => ?_
    have hempty : p.1 = [] := List.eq_of_mem_replicate (List.fst_mem_of_mem_zipIdx hp)
    rw [uncheckedAt, hempty]
    rfl
  have hsame : List.Forall₂ (· = ·) (lines s) (lines s) := List.forall₂_refl _
  rw [uncheckedCalls, uncheckedCalls, lines_lowered, List.zipIdx_append, List.filterMap_append,
    hfront, List.nil_append, List.length_replicate]
  refine List.rel_filterMap ?_ (forall₂_zipIdx_add hsame 0 k)
  rintro ⟨line, i⟩ ⟨other, j⟩ ⟨hline, hindex⟩
  obtain rfl : line = other := hline
  obtain rfl : j = i + k := hindex
  have hscope : stretch (List.replicate k [] ++ lines s) (i + k) ((i + k : Nat) + window + 1)
      = stretch (lines s) i (i + window + 1) := by
    have hmoved := stretch_append (List.replicate k []) (lines s) i
      (show (0 : Int) ≤ i + window + 1 by omega)
    rw [List.length_replicate] at hmoved
    rw [← hmoved]
    congr 1
    omega
  dsimp only [uncheckedAt]
  rw [hscope]
  split
  · have hnumber : (((i + k : Nat) : Int) + 1) = (i : Int) + 1 + k := by omega
    exact .some ⟨rfl, rfl, hnumber, hnumber, rfl, fun _ => rfl, fun h => by cases h⟩
  · exact .none

theorem overflowBelow_moved (safe : List Int) (version : Version) :
    List.Forall₂ (Draft.Moved k) (overflowBelow safe s version)
      (overflowBelow safe (lowered k s) version) := by
  rw [overflowBelow, overflowBelow, lines_lowered, firstArithmetic?_replicate, firstArithmetic?_add]
  split
  · cases firstArithmetic? 1 (lines s) with
    | none => exact .nil
    | some found =>
      refine .cons ⟨rfl, rfl, ?_, ?_, rfl, fun _ => rfl, fun h => by cases h⟩ .nil
      · exact Int.natCast_add _ _
      · exact Int.natCast_add _ _
  · exact .nil

end Detector

theorem standardDrafts_moved (default : Visibility) (k : Nat) (s : Text) {window : Int}
    (hwindow : 0 ≤ window) (safe : List Int) (version : Option Version) :
    List.Forall₂ (Draft.Moved k)
      (standardDrafts window (functions default s) s
        (version.elim [] (Detector.overflowBelow safe s)))
      (standardDrafts window (functions default (lowered k s)) (lowered k s)
        (version.elim [] (Detector.overflowBelow safe (lowered k s)))) := by
  have hunchecked : List.Forall₂ (Draft.Moved k) (version.elim [] (Detector.overflowBelow safe s))
      (version.elim [] (Detector.overflowBelow safe (lowered k s))) := by
    cases version with
    | none => exact .nil
    | some version => exact Detector.overflowBelow_moved k s safe version
  exact List.rel_append (Detector.reentrancy_moved default k s)
    (List.rel_append (Detector.uncheckedCalls_moved k s hwindow)
      (List.rel_append hunchecked (Detector.accessControl_moved default k s)))

/-! ### Findings -/

/-- The location `k` lines further down, as far as it is known. -/
def Location.lowered (k : Nat) (l : Location) : Location :=
  { l with lineStart := l.lineStart.map (· + (k : Int)), lineEnd := l.lineEnd.map (· + (k : Int)) }

/-- The second finding is the first with its lines `k` further down, those that the description of a
call before a write quotes included. -/
structure Finding.Moved (k : Nat) (f g : Finding) : Prop where
  id_eq : g.id = f.id
  title_eq : g.title = f.title
  severity_eq : g.severity = f.severity
  suggestedFix_eq : g.suggestedFix = f.suggestedFix
  location_eq : g.location = f.location.lowered k
  description_eq : f.title ≠ Category.reentrancy.title → g.description = f.description
  quoted : f.title = Category.reentrancy.title → ∃ name guarded call write,
    f.location.lineStart = some call ∧ f.location.lineEnd = some write ∧
    f.description = Category.reentrancy.description ++ " "
      ++ Detector.reentrancyNote name call write guarded ∧
    g.description = Category.reentrancy.description ++ " "
      ++ Detector.reentrancyNote name (call + k) (write + k) guarded

/-- The description of a draft with a note that says something. -/
theorem description_finding {d : Draft} {note : String} (h : d.note = some note)
    (hnote : note.isEmpty = false) (number : Nat) :
    (d.finding number).description = d.category.description ++ " " ++ note := by
  have hsubmit : d.submit.note = .str note := by rw [Draft.submit, h]
  have hremark : d.submit.remark = " " ++ note := by
    rw [Submission.remark, hsubmit, Json.isEmptyLike, hnote]
    rfl
  show d.category.description ++ d.submit.remark = _
  rw [hremark, String.append_assoc]

theorem isEmpty_reentrancyNote (name : Text) (call write : Int) (guarded : Bool) :
    (Detector.reentrancyNote name call write guarded).isEmpty = false := by
  rw [← Bool.not_eq_true, String.isEmpty_iff]
  intro h
  have hchars := congrArg String.toList h
  simp [Detector.reentrancyNote] at hchars

theorem Draft.Moved.finding {k : Nat} {d e : Draft} (h : d.Moved k e) (number : Nat) :
    (d.finding number).Moved k (e.finding number) where
  id_eq := by rw [Draft.finding, Draft.finding, h.category_eq]
  title_eq := congrArg Category.title h.category_eq
  severity_eq := h.severity_eq
  suggestedFix_eq := congrArg Category.remediation h.category_eq
  location_eq := by
    rw [Draft.finding, Draft.finding, h.lineStart_eq, h.lineEnd_eq, h.snippet_eq]
    rfl
  description_eq htitle := by
    have hcategory : d.category ≠ .reentrancy := fun heq => htitle (congrArg Category.title heq)
    rw [Draft.finding, Draft.finding, Submission.remark, Submission.remark, Draft.submit,
      Draft.submit, h.note_eq hcategory, h.category_eq]
  quoted htitle := by
    have hcategory : d.category = .reentrancy := Category.title_injective htitle
    obtain ⟨name, guarded, hd, he⟩ := h.quoted hcategory
    refine ⟨name, guarded, d.lineStart, d.lineEnd, rfl, rfl, ?_, ?_⟩
    · rw [description_finding hd (isEmpty_reentrancyNote _ _ _ _), hcategory]
    · rw [description_finding he (isEmpty_reentrancyNote _ _ _ _), h.category_eq, hcategory,
        h.lineStart_eq, h.lineEnd_eq]

theorem nothingFound_moved (k : Nat) :
    Register.nothingFound.Moved k Register.nothingFound where
  id_eq := rfl
  title_eq := rfl
  severity_eq := rfl
  suggestedFix_eq := rfl
  location_eq := rfl
  description_eq _ := rfl
  quoted htitle := by
    have heq : Category.info = .reentrancy := Category.title_injective htitle
    cases heq

/-! ### Audits -/

/-- The second assessment is the first with the lines of its findings `k` further down. -/
structure Assessment.Moved (k : Nat) (a b : Assessment) : Prop where
  riskScore_eq : b.riskScore = a.riskScore
  riskLevel_eq : b.riskLevel = a.riskLevel
  summary_eq : b.summary = a.summary
  metrics_eq : b.metrics = a.metrics
  findings : List.Forall₂ (Finding.Moved k) a.findings b.findings

section Summary

variable {k : Nat} {fs gs : List Finding} (h : List.Forall₂ (Finding.Moved k) fs gs)

include h

theorem measure_lowered (s : Text) : measure (lowered k s) gs = measure s fs := by
  have hcount : ∀ severity, countOf severity gs = countOf severity fs := by
    intro severity
    refine (List.rel_filter (fun f g hfg => ?_) h).length_eq.symm
    dsimp only
    rw [hfg.severity_eq]
  have hlines : (lines (lowered k s)).filter (fun line => !isBlankText line)
      = (lines s).filter fun line => !isBlankText line := by
    rw [lines_lowered, List.filter_append, List.filter_replicate]
    rfl
  simp only [measure, hcount, hlines, h.length_eq, spacingFree_declarationCount.margin.lowered_eq]

theorem assess_moved (thresholds : Thresholds) (s : Text) :
    (assess thresholds s fs).Moved k (assess thresholds (lowered k s) gs) := by
  have hseverities : gs.map Finding.severity = fs.map Finding.severity :=
    (forall₂_iff_map_eq.1 (h.imp fun f g hfg => hfg.severity_eq.symm)).symm
  refine ⟨?_, ?_, ?_, measure_lowered h s, h⟩
  · simp only [assess, hseverities]
  · simp only [assess, hseverities]
  · simp only [assess, hseverities, measure_lowered h]

end Summary

/-- Drafts that differ by `k` lines have findings that do. -/
theorem conclude_moved (default : Visibility) (k : Nat) (s : Text) {window : Int}
    (hwindow : 0 ≤ window) (safe : List Int) {version : Option Version}
    (hversion : pragmaVersion s = .ok version) :
    List.Forall₂ (Finding.Moved k)
      ((standardDrafts window (functions default s) s
        (version.elim [] (Detector.overflowBelow safe s))).foldl Register.addDraft .empty).conclude
      ((standardDrafts window (functions default (lowered k s)) (lowered k s)
        (version.elim [] (Detector.overflowBelow safe (lowered k s)))).foldl Register.addDraft
          .empty).conclude := by
  have hoverflow : ∀ source, pragmaVersion source = .ok version → Detector.overflow safe source
      = .ok (version.elim [] (Detector.overflowBelow safe source)) := by
    intro source hsource
    rw [Auditor.overflow_eq, hsource, ok_bind]
  have hlowered : pragmaVersion (lowered k s) = .ok version := by
    rw [marginFree_pragmaVersion.lowered_eq, hversion]
  have hdrafts := standardDrafts_moved default k s hwindow safe version
  rw [conclude_standardDrafts (hoverflow s hversion),
    conclude_standardDrafts (hoverflow (lowered k s) hlowered)]
  generalize standardDrafts window (functions default s) s _ = drafts at hdrafts ⊢
  generalize standardDrafts window (functions default (lowered k s)) _ _ = drafts' at hdrafts ⊢
  cases hdrafts with
  | nil => exact .cons (nothingFound_moved k) .nil
  | @cons d e ds es hd hrest =>
    rw [if_neg (List.cons_ne_nil d ds), if_neg (List.cons_ne_nil e es), List.forall₂_map_left_iff,
      List.forall₂_map_right_iff]
    refine (Detector.forall₂_zipIdx (.cons hd hrest) 1).imp fun p q hpq => ?_
    rw [← hpq.2]
    exact hpq.1.finding p.2

namespace Auditor

theorem admitSource_lowered (k : Nat) (s : Text) (mode : String) :
    admitSource (some (lowered k s)) mode
      = (admitSource (some s) mode).map fun _ => lowered k s := by
  have hblank : isBlankText (lowered k s) = isBlankText s :=
    marginFree_isBlankText.lowered_eq k s
  simp only [admitSource, hblank]
  split
  · rfl
  · split
    · rfl
    · split <;> rfl

/-- **An audit moves with its source.**  With the program's own detectors and a window that is not
negative, an audit of a source behind `k` line feeds fails as an audit of the source does, or both
return; then score, level, summary and metrics are the same, and the findings are the same but for
their lines, which are `k` further down. -/
theorem audit_moves_with_source {o : Options} (hbattery : o.battery = none)
    (hwindow : 0 ≤ o.callCheckWindow) (k : Nat) (s : Text) (mode : String) :
    (∃ failure, o.audit (some s) mode = .error failure ∧
      o.audit (some (lowered k s)) mode = .error failure) ∨
    ∃ result moved, o.audit (some s) mode = .ok result ∧
      o.audit (some (lowered k s)) mode = .ok moved ∧ result.Moved k moved := by
  cases ha : ofOptions o with
  | error failure =>
    have hfails : ∀ source, o.audit source mode = .error failure := by
      intro source
      rw [Options.audit, ha]
      rfl
    exact .inl ⟨failure, hfails _, hfails _⟩
  | ok a =>
    obtain ⟨safe, haudit⟩ := audit_eq_of_standard hbattery ha
    have hsteps : ∀ source, o.audit source mode = a.audit source mode := by
      intro source
      rw [Options.audit, ha, ok_bind]
    rw [hsteps, hsteps, haudit, haudit, admitSource_lowered]
    cases hadmit : admitSource (some s) mode with
    | error failure => exact .inl ⟨failure, rfl, rfl⟩
    | ok text =>
      obtain rfl := eq_of_admitSource_eq_ok hadmit
      cases Visibility.parse a.defaultVisibility with
      | error failure => exact .inl ⟨failure, rfl, rfl⟩
      | ok visibility =>
        simp only [Except.map, ok_bind, marginFree_pragmaVersion.lowered_eq]
        cases hversion : pragmaVersion text with
        | error failure => exact .inl ⟨failure, rfl, rfl⟩
        | ok version =>
          have hfindings := conclude_moved visibility k text hwindow safe hversion
          exact .inr ⟨_, _, rfl, rfl, assess_moved hfindings a.thresholds text⟩

theorem audit_moves_with_source_payout :
    ∃ result moved, Options.audit {} (some payout) "source" = .ok result ∧
      Options.audit {} (some (lowered 2 payout)) "source" = .ok moved ∧ result.Moved 2 moved ∧
      result.findings.map (fun f => f.location.lineStart) = [some 3, some 3, some 4, some 2] := by
  have hplaces : (Options.audit {} (some payout) "source").toOption.map
      (fun a => a.findings.map fun f => f.location.lineStart)
      = some [some 3, some 3, some 4, some 2] := by
    decide +kernel
  obtain ⟨failure, hfails, -⟩ | ⟨result, moved, hresult, hmoved, hmoves⟩ :=
    audit_moves_with_source (o := {}) rfl (by decide) 2 payout "source"
  · rw [hfails] at hplaces
    cases hplaces
  · rw [hresult] at hplaces
    exact ⟨result, moved, hresult, hmoved, hmoves, Option.some.inj hplaces⟩

end Auditor

end ContractAudit
