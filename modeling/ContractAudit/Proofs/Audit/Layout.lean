import ContractAudit.Audit.Auditor
import ContractAudit.Proofs.Audit.AlikeDrafts

/-!
# Layout

How the lines of a source are indented, and whether they end in a line feed or in a carriage return and
a line feed, is a matter of taste.  The functions of a source, its metrics and the drafts about calls
and callers do not depend on it, snippets and notes included.

* `SameBehindMargin` -- sources whose lines agree behind the blanks in front;
* `SameBehindMargin.measure_eq`, `.reentrancy_eq`, `.uncheckedCalls_eq`, `.accessControl_eq` -- what is
  the same for them;
* `indentation_does_not_count` -- other spaces and tabs at the start of the lines;
* `line_ends_do_not_count` -- other line ends.

The search for pragmas is not among this: what a pragma says is quoted with its spacing.
-/

namespace ContractAudit

open ContractAudit.Text ContractAudit.Source

/-- The lines of the two sources agree behind the blanks in front. -/
def SameBehindMargin (s t : Text) : Prop :=
  List.Forall₂ (fun l m => l.dropWhile isBlank = m.dropWhile isBlank) (lines s) (lines t)

namespace SameBehindMargin

variable {s t : Text}

theorem functions_alike (h : SameBehindMargin s t) (default : Visibility) :
    List.Forall₂ (FunctionDef.Alike 0 fun l m => l.dropWhile isBlank = m.dropWhile isBlank)
      (functions default s) (functions default t) :=
  Source.functions_alike (fun _ _ hline => .of_dropWhile_eq hline) h default

/-- The same lines are blank, and the same declarations are counted. -/
theorem measure_eq (h : SameBehindMargin s t) (findings : List Finding) :
    measure s findings = measure t findings := by
  have hlines : ((lines s).filter fun line => !isBlankText line).length
      = ((lines t).filter fun line => !isBlankText line).length := by
    refine (List.rel_filter (fun line other hline => ?_) h).length_eq
    dsimp only
    rw [marginFree_isBlankText.eq_of_dropWhile_eq hline]
  rw [measure, measure, hlines, spacingFree_declarationCount.lines_eq h]

theorem reentrancy_eq (h : SameBehindMargin s t) (default : Visibility) :
    Detector.reentrancy s (functions default s) = Detector.reentrancy t (functions default t) := by
  have hguarded : Detector.isGuarded s = Detector.isGuarded t :=
    Idiom.spacingFree_reentrancyGuard.lines_eq h
  rw [← List.forall₂_eq_eq_eq]
  refine Detector.reentrancy_alike (fun _ _ hline => .of_dropWhile_eq hline) (h.functions_alike default)
    fun name found found' hcall hwrite => ?_
  have hstart : found'.1.1 = found.1.1 := by simpa using hcall.1
  have hend : found'.2.1 = found.2.1 := by simpa using hwrite.1
  rw [Detector.reentrancyDraft, Detector.reentrancyDraft, hguarded, hstart, hend,
    marginFree_trim.eq_of_dropWhile_eq hcall.2, marginFree_trim.eq_of_dropWhile_eq hwrite.2]

theorem uncheckedCalls_eq (h : SameBehindMargin s t) (window : Int) :
    Detector.uncheckedCalls window s = Detector.uncheckedCalls window t := by
  rw [← List.forall₂_eq_eq_eq]
  refine Detector.uncheckedCalls_alike (fun _ _ hline => .of_dropWhile_eq hline)
    (fun number line other hline => ?_) h window
  rw [Detector.uncheckedDraft, Detector.uncheckedDraft, marginFree_trim.eq_of_dropWhile_eq hline]

theorem accessControl_eq (h : SameBehindMargin s t) (default : Visibility) :
    Detector.accessControl (functions default s) = Detector.accessControl (functions default t) := by
  have hfunctions := (h.functions_alike default).imp fun f g hfg =>
    And.intro hfg (And.intro (Detector.changesState_eq (fun _ _ hline => .of_dropWhile_eq hline) hfg)
      (hfg.ask_body (fun _ _ hline => hline) Detector.spacingFree_checks))
  rw [← List.forall₂_eq_eq_eq]
  refine Detector.accessControl_alike hfunctions fun f g hfg => ?_
  have hstart : g.lineStart = f.lineStart := by simpa using hfg.lineStart_eq
  have hend : g.lineEnd = f.lineEnd := by simpa using hfg.lineEnd_eq
  rw [Detector.exposedDraft, Detector.exposedDraft, hfg.name_eq, hfg.visibility_eq, hfg.payable_eq,
    hstart, hend, marginFree_trim.eq_of_dropWhile_eq hfg.firstLine]

end SameBehindMargin

/-! ### Indentation -/

/-- The line behind the spaces and tabs at its start. -/
def dedented (line : Text) : Text :=
  line.dropWhile fun c => c == ' ' || c == '\t'

theorem dropWhile_dedented (line : Text) :
    (dedented line).dropWhile isBlank = line.dropWhile isBlank := by
  have hblank : ∀ c ∈ line.takeWhile fun c => c == ' ' || c == '\t', isBlank c = true := by
    intro c hc
    have hmargin := List.all_eq_true.1 List.all_takeWhile c hc
    rcases Bool.or_eq_true_iff.1 hmargin with hspace | htab
    · rw [eq_of_beq hspace]
      decide
    · rw [eq_of_beq htab]
      decide
  rw [← marginFree_dropWhile.blanks_append hblank (dedented line), dedented,
    List.takeWhile_append_dropWhile]

theorem sameBehindMargin_of_dedented {s t : Text}
    (h : (lines s).map dedented = (lines t).map dedented) : SameBehindMargin s t := by
  refine (forall₂_iff_map_eq.2 h).imp fun line other hline => ?_
  rw [← dropWhile_dedented, hline, dropWhile_dedented]

/-- **Indentation does not count.**  If two sources have the same lines behind the spaces and tabs at
the start of each, then their functions agree in everything but their bodies, the metrics are the same
for any findings, and the drafts about calls before a write, unchecked calls and callers that are not
checked are the same. -/
theorem indentation_does_not_count {s t : Text}
    (h : (lines s).map dedented = (lines t).map dedented) (default : Visibility) (window : Int)
    (findings : List Finding) :
    (functions default s).map FunctionDef.outline = (functions default t).map FunctionDef.outline ∧
    measure s findings = measure t findings ∧
    Detector.reentrancy s (functions default s) = Detector.reentrancy t (functions default t) ∧
    Detector.uncheckedCalls window s = Detector.uncheckedCalls window t ∧
    Detector.accessControl (functions default s) = Detector.accessControl (functions default t) := by
  have hsame := sameBehindMargin_of_dedented h
  exact ⟨map_outline_eq (hsame.functions_alike default), hsame.measure_eq findings,
    hsame.reentrancy_eq default, hsame.uncheckedCalls_eq window, hsame.accessControl_eq default⟩

/-- A contract with an unchecked call before a write, laid out by a machine. -/
def flushLeft : Text :=
  "contract C \x7b\nfunction pay(\naddress to)\npublic \x7b\nto.call(x);\n\npaid += 1;\n\x7d\n\x7d".toList

/-- The same contract, laid out by hand: with tabs, with spaces, and with a blank line of spaces. -/
def handIndented : Text :=
  "contract C \x7b\n  function pay(\n\t\taddress to)\n    public \x7b\n    to.call(x);\n    \n\t  paid += 1;\n  \x7d\n\x7d".toList

theorem indentation_does_not_count_handIndented :
    (lines flushLeft).map dedented = (lines handIndented).map dedented ∧
    flushLeft ≠ handIndented ∧
    (functions .public flushLeft).map FunctionDef.outline
      = (functions .public handIndented).map FunctionDef.outline ∧
    (measure handIndented []).functionCount = 1 ∧
    (Detector.reentrancy handIndented (functions .public handIndented)).length = 1 ∧
    (Detector.uncheckedCalls 5 handIndented).length = 1 ∧
    (Detector.accessControl (functions .public handIndented)).length = 1 := by
  have hlines : (lines flushLeft).map dedented = (lines handIndented).map dedented := by
    decide +kernel
  obtain ⟨hfunctions, hmetrics, hwrites, hcalls, hcallers⟩ :=
    indentation_does_not_count hlines .public 5 []
  rw [← hmetrics, ← hwrites, ← hcalls, ← hcallers]
  refine ⟨hlines, ?_, hfunctions, ?_⟩
  · decide +kernel
  · decide +kernel

/-! ### Line ends -/

/-- The text with a carriage return in front of every line feed. -/
def withReturns (s : Text) : Text :=
  s.flatMap fun c => if c = '\n' then ['\r', '\n'] else [c]

theorem dropReturns_withReturns {s : Text} (h : '\r' ∉ s) : dropReturns (withReturns s) = s := by
  induction s with
  | nil => rfl
  | cons c s ih =>
    rw [List.mem_cons, not_or] at h
    have hrest := ih h.2
    rw [withReturns, List.flatMap_cons]
    by_cases hc : c = '\n'
    · subst hc
      exact congrArg ('\n' :: ·) hrest
    · rw [if_neg hc, List.singleton_append, dropReturns]
      · exact congrArg (c :: ·) hrest
      · rintro _ rfl
        exact absurd rfl h.1

theorem lines_withReturns {s : Text} (h : '\r' ∉ s) : lines (withReturns s) = lines s := by
  rw [lines, lines, dropReturns_withReturns h, dropReturns_eq_self h]

/-- **Line ends do not count.**  In a source without carriage returns, one may be put in front of every
line feed: the functions are the same, bodies included, the metrics are the same for any findings, and
so are the drafts about calls before a write, unchecked calls and callers that are not checked. -/
theorem line_ends_do_not_count {s : Text} (h : '\r' ∉ s) (default : Visibility) (window : Int)
    (findings : List Finding) :
    functions default (withReturns s) = functions default s ∧
    measure (withReturns s) findings = measure s findings ∧
    Detector.reentrancy (withReturns s) (functions default (withReturns s))
      = Detector.reentrancy s (functions default s) ∧
    Detector.uncheckedCalls window (withReturns s) = Detector.uncheckedCalls window s ∧
    Detector.accessControl (functions default (withReturns s))
      = Detector.accessControl (functions default s) := by
  have hlines := lines_withReturns h
  have hsame : SameBehindMargin (withReturns s) s := by
    rw [SameBehindMargin, hlines]
    exact List.forall₂_same.2 fun _ _ => rfl
  have hfunctions : functions default (withReturns s) = functions default s := by
    rw [functions, functions, segments, segments, hlines]
  exact ⟨hfunctions, hsame.measure_eq findings, hsame.reentrancy_eq default,
    hsame.uncheckedCalls_eq window, hsame.accessControl_eq default⟩

theorem line_ends_do_not_count_flushLeft :
    '\r' ∉ flushLeft ∧ withReturns flushLeft ≠ flushLeft ∧
    functions .public (withReturns flushLeft) = functions .public flushLeft ∧
    (functions .public (withReturns flushLeft)).length = 1 ∧
    (measure (withReturns flushLeft) []).linesOfCode = 8 ∧
    (Detector.reentrancy (withReturns flushLeft) (functions .public (withReturns flushLeft))).length = 1 ∧
    (Detector.uncheckedCalls 5 (withReturns flushLeft)).length = 1 ∧
    (Detector.accessControl (functions .public (withReturns flushLeft))).length = 1 := by
  have hreturn : '\r' ∉ flushLeft := by decide +kernel
  obtain ⟨hfunctions, hmetrics, hwrites, hcalls, hcallers⟩ :=
    line_ends_do_not_count hreturn .public 5 []
  rw [hmetrics, hwrites, hcalls, hcallers, hfunctions]
  refine ⟨hreturn, ?_, rfl, ?_⟩
  · decide +kernel
  · decide +kernel

end ContractAudit
