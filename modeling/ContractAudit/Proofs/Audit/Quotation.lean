import ContractAudit.Proofs.Audit.DraftKeys
import ContractAudit.Proofs.Text.Visible

/-!
# Findings quote the source

What the program's own inspections report can be looked up: the lines of a draft are lines of the
source, and its snippet is what stands there, without the blanks at both ends.

* `Quotes` -- what the first line, the last line and the snippet of a draft have to be, category by
  category;
* `Draft.IsLocated` -- the same of a draft, whose lines exist and whose snippet is not empty;
* `uncheckedCalls_isLocated`, `overflow_isLocated`, `accessControl_isLocated`,
  `reentrancy_isLocated` -- the four inspections;
* `audit_quotes_source` -- the findings of an audit.

The numbers come from two sides.  Two inspections number the lines of the source themselves, the
others go by functions, whose numbered lines are the lines of the source under their own numbers.
A snippet is not empty because every line that is reported has a visible character: the patterns
demand one (`lowLevelCall_demands`, `arithmetic_demands`), and a function starts with a header.
-/

namespace ContractAudit

open ContractAudit.Text ContractAudit.Source

/-! ### Lines with something to see -/

/-- The line has a character that is not blank. -/
def IsVisible (line : Text) : Prop :=
  ∃ c ∈ line, isBlank c = false

theorem isVisible_of_codePart {line : Text} (h : IsVisible (codePart line)) : IsVisible line := by
  obtain ⟨c, hc, hvisible⟩ := h
  exact ⟨c, (isPrefix_before _ line).subset hc, hvisible⟩

theorem isVisible_of_occursIn {p : Pattern} (hp : p.Demands fun c => !isBlank c) {line : Text}
    (h : p.occursIn line = true) : IsVisible line := by
  obtain ⟨c, hc, hvisible⟩ := Pattern.exists_mem_of_occursIn hp h
  exact ⟨c, hc, by simpa using hvisible⟩

theorem lowLevelCall_demands : Idiom.lowLevelCall.Demands fun c => !isBlank c := by
  have hdot : (Pattern.lit ".").Demands fun c => !isBlank c := Pattern.demands_lit (by decide)
  have hcall : (Pattern.lit ".call").Demands fun c => !isBlank c := Pattern.demands_lit (by decide)
  have hsend : (Pattern.lit ".send").Demands fun c => !isBlank c := Pattern.demands_lit (by decide)
  simp only [Idiom.lowLevelCall, Idiom.callTarget, Pattern.demands_append, Pattern.demands_or,
    hdot, hcall, hsend, true_or, and_self]

theorem arithmetic_demands : Idiom.arithmetic.Demands fun c => !isBlank c := by
  have hsigns : (Pattern.oneOf ["++", "--", "+=", "-=", "*="]).Demands fun c => !isBlank c :=
    Pattern.demands_oneOf (by decide)
  have hset : (Pattern.lit "=").Demands fun c => !isBlank c := Pattern.demands_lit (by decide)
  simp only [Idiom.arithmetic, Pattern.demands_append, Pattern.demands_or, hsigns, hset, or_true,
    true_or, and_self]

/-- Taking out pragmas adds nothing. -/
theorem dropPragmas_sublist (skip : Nat) (s : Text) : (dropPragmas skip s).Sublist s := by
  fun_induction dropPragmas skip s with
  | case1 => exact List.Sublist.slnil
  | case2 skip c s ih => exact ih.cons c
  | case3 c s length _ ih => exact ih.cons c
  | case4 c s _ ih => exact ih.cons_cons c

theorem isVisible_of_hasArithmetic {line : Text} (h : Detector.hasArithmetic line = true) :
    IsVisible line := by
  rw [Detector.hasArithmetic, Bool.and_eq_true] at h
  obtain ⟨c, hc, hvisible⟩ := isVisible_of_occursIn arithmetic_demands h.2
  exact isVisible_of_codePart ⟨c, (dropPragmas_sublist 0 _).subset hc, hvisible⟩

theorem isVisible_of_opensSpan {line name text : Text} (h : OpensSpan line name text) :
    IsVisible line := by
  obtain ⟨-, front, hcode, ⟨-, gap, space, rest, htext, -⟩, -⟩ := h
  refine isVisible_of_codePart ⟨'f', ?_, by decide⟩
  rw [hcode, htext]
  simp

/-! ### Where a draft lies -/

/-- What the lines and the snippet of a draft have to be, given the lines of the source, numbered
from one, and its functions. -/
def Quotes (ls : List Text) (fs : List FunctionDef) :
    Category → (lineStart lineEnd : Nat) → (snippet : Text) → Prop
  | .uncheckedCall, lineStart, lineEnd, snippet | .overflow, lineStart, lineEnd, snippet =>
    lineEnd = lineStart ∧ ∃ line, ls[lineStart - 1]? = some line ∧ snippet = trim line
  | .accessControl, lineStart, lineEnd, snippet =>
    (∃ f ∈ fs, f.lineStart = lineStart ∧ f.lineEnd = lineEnd) ∧
      ∃ line, ls[lineStart - 1]? = some line ∧ snippet = trim line
  | .reentrancy, lineStart, lineEnd, snippet =>
    lineStart < lineEnd ∧ (∃ f ∈ fs, f.lineStart ≤ lineStart ∧ (lineEnd : Int) ≤ f.lineEnd) ∧
      ∃ call write, ls[lineStart - 1]? = some call ∧ ls[lineEnd - 1]? = some write ∧
        snippet = trim call ++ "\n...\n".toList ++ trim write
  | .info, _, _, _ => False

/-- The lines of the draft are lines of the source, and its snippet quotes them. -/
structure Draft.IsLocated (d : Draft) (ls : List Text) (fs : List FunctionDef) (s e : Nat) :
    Prop where
  lineStart_eq : d.lineStart = s
  lineEnd_eq : d.lineEnd = e
  one_le : 1 ≤ s
  le : s ≤ e
  le_length : e ≤ ls.length
  snippet_ne_nil : d.snippet ≠ []
  quotes : Quotes ls fs d.category s e d.snippet

namespace Detector

/-! ### Inspections that go by lines -/

theorem uncheckedCalls_isLocated {window : Int} {source : Text} {d : Draft}
    (h : d ∈ uncheckedCalls window source) (fs : List FunctionDef) :
    ∃ s e, d.IsLocated (lines source) fs s e := by
  obtain ⟨i, line, hline, hcalls, -, rfl⟩ := mem_uncheckedCalls_iff.1 h
  have hlength := (List.getElem?_eq_some_iff.1 hline).1
  rw [callsLowLevel, Bool.and_eq_true] at hcalls
  have hvisible := isVisible_of_codePart (isVisible_of_occursIn lowLevelCall_demands hcalls.2)
  exact ⟨i + 1, i + 1, rfl, rfl, Nat.le_add_left 1 i, Nat.le_refl _, hlength,
    trim_ne_nil hvisible, rfl, line, hline, rfl⟩

/-- The first line with arithmetic, `number` being the number of the first line. -/
theorem firstArithmetic?_eq_some_iff {number n : Nat} {ls : List Text} {line : Text} :
    firstArithmetic? number ls = some (n, line) ↔
    ∃ i, n = number + i ∧ ls[i]? = some line ∧ hasArithmetic line = true ∧
      ∀ j < i, ∀ other, ls[j]? = some other → hasArithmetic other = false := by
  induction ls generalizing number with
  | nil =>
    constructor
    · intro h
      cases h
    · intro h
      obtain ⟨i, -, hline, -⟩ := h
      cases hline
  | cons first ls ih =>
    rw [firstArithmetic?]
    by_cases hfirst : hasArithmetic first = true
    · rw [if_pos hfirst]
      constructor
      · intro h
        cases h
        refine ⟨0, rfl, rfl, hfirst, ?_⟩
        intro j hj
        omega
      · intro h
        obtain ⟨i, rfl, hline, -, hbefore⟩ := h
        cases i with
        | zero =>
          cases hline
          rfl
        | succ i =>
          have hnot := hbefore 0 (by omega) first rfl
          rw [hfirst] at hnot
          cases hnot
    · rw [if_neg hfirst, ih]
      constructor
      · intro h
        obtain ⟨i, rfl, hline, harithmetic, hbefore⟩ := h
        refine ⟨i + 1, by omega, hline, harithmetic, ?_⟩
        intro j hj other hother
        cases j with
        | zero =>
          cases hother
          simpa using hfirst
        | succ j => exact hbefore j (by omega) other hother
      · intro h
        obtain ⟨i, rfl, hline, harithmetic, hbefore⟩ := h
        cases i with
        | zero =>
          cases hline
          exact absurd harithmetic hfirst
        | succ i =>
          refine ⟨i, by omega, hline, harithmetic, ?_⟩
          intro j hj other hother
          exact hbefore (j + 1) (by omega) other hother

theorem overflow_isLocated {safe : List Int} {source : Text} {drafts : List Draft}
    (hdrafts : overflow safe source = .ok drafts) {d : Draft} (h : d ∈ drafts)
    (fs : List FunctionDef) : ∃ s e, d.IsLocated (lines source) fs s e := by
  rw [overflow] at hdrafts
  split at hdrafts
  · cases hdrafts
  · cases hdrafts
    cases h
  · cases hdrafts
    rw [overflowBelow] at h
    split at h
    · split at h
      · rename_i found hfirst
        obtain ⟨n, line⟩ := found
        obtain ⟨i, rfl, hline, harithmetic, -⟩ := firstArithmetic?_eq_some_iff.1 hfirst
        have hlength := (List.getElem?_eq_some_iff.1 hline).1
        have hindex : 1 + i - 1 = i := by omega
        rw [List.mem_singleton] at h
        subst h
        refine ⟨1 + i, 1 + i, rfl, rfl, Nat.le_add_right 1 i, Nat.le_refl _, by omega,
          trim_ne_nil (isVisible_of_hasArithmetic harithmetic), rfl, line, ?_, rfl⟩
        rw [hindex]
        exact hline
      · cases h
    · cases h

/-! ### Inspections that go by functions -/

theorem takeWhile_unlines_cons {line : Text} (h : '\n' ∉ line) (rest : List Text) :
    (unlines (line :: rest)).takeWhile (· != '\n') = line := by
  cases rest with
  | nil => exact takeWhile_bne_of_not_mem h
  | cons next rest => exact takeWhile_run (forall_bne_of_not_mem h) rfl

theorem accessControl_isLocated {default : Visibility} {source : Text} {d : Draft}
    (h : d ∈ accessControl (functions default source)) :
    ∃ s e, d.IsLocated (lines source) (functions default source) s e := by
  rw [accessControl, List.mem_map] at h
  obtain ⟨f, hf, rfl⟩ := h
  have hmem := (List.mem_filter.1 hf).1
  obtain ⟨before, line, rest, after, name, text, hlines, hstands, hopens⟩ :=
    exists_opening_line hmem
  have hline : (lines source)[before.length]? = some line := by
    rw [hlines, List.getElem?_append_right (Nat.le_refl _), Nat.sub_self]
    rfl
  have hlength : before.length + (line :: rest).length ≤ (lines source).length := by
    rw [hlines, List.length_append, List.length_append]
    omega
  -- the first line of the body is the line that opens the function
  have hfirst : f.body.takeWhile (· != '\n') = line := by
    rw [hstands.body_eq]
    exact takeWhile_unlines_cons (newline_not_mem_inside hlines line List.mem_cons_self) rest
  refine ⟨before.length + 1, before.length + (line :: rest).length, hstands.lineStart_eq,
    hstands.lineEnd_eq, Nat.le_add_left 1 _, ?_, hlength, ?_,
    ⟨f, hmem, hstands.lineStart_eq, hstands.lineEnd_eq⟩, line, hline, ?_⟩
  · rw [List.length_cons]
    omega
  · show trim (f.body.takeWhile (· != '\n')) ≠ []
    rw [hfirst]
    exact trim_ne_nil (isVisible_of_opensSpan hopens)
  · show trim (f.body.takeWhile (· != '\n')) = trim line
    rw [hfirst]

/-- A numbered line of a function is a line of the source under its own number. -/
theorem exists_of_mem_numberedLines {default : Visibility} {source : Text} {f : FunctionDef}
    (hf : f ∈ functions default source) {p : Int × Text} (hp : p ∈ f.numberedLines) :
    ∃ n : Nat, p.1 = n ∧ 1 ≤ n ∧ n ≤ (lines source).length ∧
      (lines source)[n - 1]? = some p.2 ∧ f.lineStart ≤ n ∧ n ≤ f.lineEnd := by
  have hbounds := (bounds_of_mem_functions hf).2 p hp
  obtain ⟨before, inside, after, hlines, hstands⟩ := exists_standsBehind hf
  rw [numberedLines_eq hstands (newline_not_mem_inside hlines)] at hp
  have hnumbered := List.mem_map_of_mem (f := fun p : Int × Text => (p.1, some p.2)) hp
  rw [numberFrom_eq_map_range' before inside after, ← hlines] at hnumbered
  obtain ⟨n, hn, heq⟩ := List.mem_map.1 hnumbered
  obtain ⟨hnumber, hline⟩ := Prod.mk.inj heq
  have hrange := List.mem_range'_1.1 hn
  have hlength : n - 1 < (lines source).length := (List.getElem?_eq_some_iff.1 hline).1
  exact ⟨n, hnumber.symm, by omega, by omega, hline, by omega, by omega⟩

theorem reentrancy_isLocated {default : Visibility} {source : Text} {d : Draft}
    (h : d ∈ reentrancy source (functions default source)) :
    ∃ s e, d.IsLocated (lines source) (functions default source) s e := by
  rw [reentrancy, List.mem_filterMap] at h
  obtain ⟨f, hf, hd⟩ := h
  obtain ⟨⟨call, write⟩, hfound, rfl⟩ := Option.map_eq_some_iff.1 hd
  obtain ⟨hcall, hwrite, hlt⟩ := mem_of_callThenWrite? hfound
  obtain ⟨s, hs, hone, -, hcall, hstart, -⟩ :=
    exists_of_mem_numberedLines hf (List.mem_of_mem_filter hcall)
  obtain ⟨e, he, -, hlength, hwrite, -, hend⟩ :=
    exists_of_mem_numberedLines hf (List.mem_of_mem_filter hwrite)
  refine ⟨s, e, hs, he, hone, by omega, hlength, ?_, by omega, ⟨f, hf, hstart, hend⟩, call.2,
    write.2, hcall, hwrite, rfl⟩
  show trim call.2 ++ "\n...\n".toList ++ trim write.2 ≠ []
  simp

end Detector

/-! ### The findings of an audit -/

namespace Auditor

/-- What the program's own inspections find lies on lines of the source. -/
theorem isLocated_of_mem_standardDrafts {window : Int} {safe : List Int} {default : Visibility}
    {source : Text} {unchecked : List Draft}
    (hunchecked : Detector.overflow safe source = .ok unchecked) {d : Draft}
    (h : d ∈ standardDrafts window (functions default source) source unchecked) :
    ∃ s e, d.IsLocated (lines source) (functions default source) s e := by
  simp only [standardDrafts, List.mem_append] at h
  rcases h with h | h | h | h
  · exact Detector.reentrancy_isLocated h
  · exact Detector.uncheckedCalls_isLocated h _
  · exact Detector.overflow_isLocated hunchecked h _
  · exact Detector.accessControl_isLocated h

/-- **Findings quote the source.**  Of the findings of an audit with the program's own detectors, each
but the one that says that nothing was found lies on lines of the source and has a snippet that is
not empty; and its lines and its snippet are what its category asks for. -/
theorem audit_quotes_source {o : Options} {source : Text} {mode : String} {result : Assessment}
    (hbattery : o.battery = none) (h : o.audit (some source) mode = .ok result) :
    ∃ visibility, Visibility.parse o.defaultVisibility = .ok visibility ∧
      ∀ f ∈ result.findings, f ≠ Register.nothingFound →
        ∃ (category : Category) (s e : Nat) (snippet : Text), f.title = category.title ∧
          f.location = ⟨some (s : Int), some (e : Int), some (String.ofList snippet)⟩ ∧
          1 ≤ s ∧ s ≤ e ∧ e ≤ (lines source).length ∧ snippet ≠ [] ∧
          Quotes (lines source) (functions visibility source) category s e snippet := by
  obtain ⟨thresholds, version, visibility, unchecked, -, -, hvisibility, hunchecked, rfl⟩ :=
    exists_of_audit_eq_ok hbattery h
  refine ⟨visibility, hvisibility, ?_⟩
  intro f hf hother
  simp only [assess, conclude_standardDrafts hunchecked] at hf
  split at hf
  · exact absurd (List.mem_singleton.1 hf) hother
  · obtain ⟨⟨d, number⟩, hmem, rfl⟩ := List.mem_map.1 hf
    have hd := List.fst_mem_of_mem_zipIdx hmem
    obtain ⟨s, e, hlocated⟩ := isLocated_of_mem_standardDrafts hunchecked hd
    refine ⟨d.category, s, e, d.snippet, rfl, ?_, hlocated.one_le, hlocated.le,
      hlocated.le_length, hlocated.snippet_ne_nil, hlocated.quotes⟩
    rw [← hlocated.lineStart_eq, ← hlocated.lineEnd_eq]
    rfl

theorem audit_quotes_source_payout :
    ∃ result visibility f, Options.audit {} (some payout) "source" = .ok result ∧
      f ∈ result.findings ∧ f.title = Category.reentrancy.title ∧
      ∃ (category : Category) (s e : Nat) (snippet : Text), f.title = category.title ∧
        f.location = ⟨some (s : Int), some (e : Int), some (String.ofList snippet)⟩ ∧
        Quotes (lines payout) (functions visibility payout) category s e snippet := by
  have hany : ((Options.audit {} (some payout) "source").toOption.any fun result =>
      result.findings.any fun f => f.title == Category.reentrancy.title) = true := by
    decide +kernel
  cases h : Options.audit {} (some payout) "source" with
  | error failure =>
    rw [h] at hany
    cases hany
  | ok result =>
    rw [h] at hany
    obtain ⟨f, hf, htitle⟩ := List.any_eq_true.1 hany
    have hother : f ≠ Register.nothingFound := by
      rintro rfl
      revert htitle
      decide
    obtain ⟨visibility, -, hquotes⟩ := audit_quotes_source rfl h
    obtain ⟨category, s, e, snippet, hcategory, hlocation, -, -, -, -, hsays⟩ :=
      hquotes f hf hother
    exact ⟨result, visibility, f, rfl, hf, eq_of_beq htitle, category, s, e, snippet, hcategory,
      hlocation, hsays⟩

end Auditor

end ContractAudit
