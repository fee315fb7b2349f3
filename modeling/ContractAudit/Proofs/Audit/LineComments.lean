import ContractAudit.Proofs.Audit.AlikeDrafts
import ContractAudit.Proofs.Audit.Outcome
import ContractAudit.Proofs.Audit.Refusal
import ContractAudit.Proofs.Text.Visible

/-!
# Comment lines

A line that opens with a comment mark should not count.  It is replaced by a bare double slash here, and
two runs of the program's own detectors are compared.

Three searches go over the text as it stands, comments included: the one for a guard, the one for the
pragma, and the one for a check of the caller in the body of a function.  So a comment can lower the
severity of a call before a write, bring up or hide unchecked arithmetic, and hide a function that does
not check who calls it (`verdicts_ownerSetter`).  And a line of a block comment is taken for code
where braces are counted, where a signature is put together, and where the check of a call is looked
for.

* `Overlooked` -- a comment line of which none of the latter holds; every line comment is such a line
  (`overlooked_of_slashes`);
* `functions_overlooked` -- it does nothing to the functions but to stand in them;
* `uncheckedCalls_overlooked`, `firstArithmetic?_overlooked`, `codeLines_overlooked` -- nor to what is
  found line by line;
* `comment_lines_count_only_where_searched` -- if the three searches come out the same, so do all
  findings.
-/

namespace ContractAudit

open ContractAudit.Text ContractAudit.Source

/-! ### Lines that are not taken for code -/

/-- A comment line on which no call is checked. -/
def Silent (line : Text) : Prop :=
  isComment line = true ∧ Detector.anyOccurs Idiom.successCheck (codePart line) = false

/-- The lines are equal, or both are silent. -/
def SameButSilent (line other : Text) : Prop :=
  line = other ∨ Silent line ∧ Silent other

/-- Behind the lines `before`, what stands on a comment line in front of a double slash is not taken for
code: there is nothing, or there are no braces and no check of a call, and no signature is open that it
would belong to. -/
def Overlooked (default : Visibility) (before : List Text) (line : Text) : Prop :=
  isBlankText (codePart line) = true ∨
    '{' ∉ codePart line ∧ '}' ∉ codePart line ∧
      Detector.anyOccurs Idiom.successCheck (codePart line) = false ∧
      ∀ f, (scanFrom default 1 none before).2 = some f → f.opened = true

/-- The comment line that says nothing. -/
def bareComment : Text := "//".toList

theorem silent_bareComment : Silent bareComment := by
  unfold Silent
  decide

theorem readsAlike_bareComment {line : Text} (hcomment : isComment line = true)
    (hcode : isBlankText (codePart line) = true) : ReadsAlike line bareComment := by
  refine ⟨hcomment.trans silent_bareComment.1.symm, ?_⟩
  exact List.dropWhile_eq_nil_iff.2 (List.all_eq_true.1 hcode)

theorem Overlooked.silent {default : Visibility} {before : List Text} {line : Text}
    (h : Overlooked default before line) (hcomment : isComment line = true) : Silent line := by
  rcases h with hcode | ⟨-, -, hcheck, -⟩
  · refine ⟨hcomment, ?_⟩
    rw [(readsAlike_bareComment hcomment hcode).ask_codePart
      (Detector.marginFree_anyOccurs Idiom.marginFree_successCheck)]
    exact silent_bareComment.2
  · exact ⟨hcomment, hcheck⟩

/-- Nothing stands in front of a line comment. -/
theorem overlooked_of_slashes (default : Visibility) (before : List Text) {line : Text}
    (h : "//".toList <+: line.dropWhile isBlank) : Overlooked default before line := by
  obtain ⟨rest, hrest⟩ := h
  have hcode : (codePart line).dropWhile isBlank = [] := by
    rw [← marginFree_code.dropWhile_eq line, ← hrest]
    rfl
  exact .inl (List.all_eq_true.2 (List.dropWhile_eq_nil_iff.1 hcode))

/-! ### The scan -/

namespace Source

/-- A line without braces stays in a function whose brace has been opened. -/
theorem OpenFunction.take_of_opened (default : Visibility) (number : Nat) (line : Text)
    {f : OpenFunction} (hopened : f.opened = true) {code : Text} (hopen : '{' ∉ code)
    (hclose : '}' ∉ code) :
    f.take default number line code = (none, some { f with body := line :: f.body }) := by
  have hbodiless : f.endsBodiless code = false := by
    rw [endsBodiless, hopened]
    rfl
  have hextend : f.extend line code = { f with body := line :: f.body } := by
    simp [extend, hopened, List.count_eq_zero_of_not_mem hopen, List.count_eq_zero_of_not_mem hclose]
  have hclosed : (f.extend line code).endsClosed code = false := by
    simp [endsClosed, hclose]
  rw [take, hbodiless, hclosed, hextend]
  rfl

/-- **Step.**  A comment line that is not taken for code does what a bare one does. -/
theorem scanLine_overlooked {R : Text → Text → Prop}
    (hfeed : ∀ line other, R line other → '\n' ∉ line ∧ '\n' ∉ other) {default : Visibility}
    {before : List Text} {line : Text} (hline : R line bareComment) (hcomment : isComment line = true)
    (hquiet : Overlooked default before line) (number : Nat)
    (hopen : Option.Rel (OpenFunction.Alike 0 R) (scanFrom default 1 none before).2
      (scanFrom default 1 none before).2) :
    StepAlike 0 R (scanLine default number (scanFrom default 1 none before).2 line)
      (scanLine default number (scanFrom default 1 none before).2 bareComment) := by
  rcases hquiet with hcode | ⟨hopens, hcloses, -, hopened⟩
  · exact scanLine_alike hfeed hline (readsAlike_bareComment hcomment hcode) default number hopen
  · generalize (scanFrom default 1 none before).2 = current at hopen hopened ⊢
    cases current with
    | none =>
      have hnone : ∀ line, isComment line = true → scanLine default number none line = (none, none) := by
        intro line hline
        rw [scanLine, entered?, opening?, hline]
        rfl
      rw [hnone line hcomment, hnone bareComment silent_bareComment.1]
      exact ⟨.none, .none⟩
    | some f =>
      have hf := hopened f rfl
      cases hopen with
      | some h =>
        rw [scanLine, scanLine, entered?, entered?]
        dsimp only
        rw [OpenFunction.take_of_opened default number line hf hopens hcloses,
          OpenFunction.take_of_opened default number bareComment hf (by decide) (by decide)]
        exact ⟨.none, .some { h with body := .cons hline h.body }⟩

end Source

section Replaced

variable {s t : Text} {before after : List Text} {line : Text} {default : Visibility}
  (hs : lines s = before ++ line :: after) (ht : lines t = before ++ bareComment :: after)
  (hcomment : isComment line = true) (hquiet : Overlooked default before line)

include hs ht hcomment hquiet

theorem sameButSilent_lines : List.Forall₂ SameButSilent (lines s) (lines t) := by
  have hsame : ∀ ls : List Text, List.Forall₂ SameButSilent ls ls :=
    fun _ => List.forall₂_same.2 fun _ _ => .inl rfl
  rw [hs, ht]
  exact List.rel_append (hsame before)
    (.cons (.inr ⟨hquiet.silent hcomment, silent_bareComment⟩) (hsame after))

/-- The functions of the two sources agree, line by line. -/
theorem functions_overlooked :
    List.Forall₂ (FunctionDef.Alike 0 SameButSilent) (functions default s) (functions default t) := by
  let R : Text → Text → Prop := fun line other => SameButSilent line other ∧ '\n' ∉ line ∧ '\n' ∉ other
  have hfeed : ∀ line other, R line other → '\n' ∉ line ∧ '\n' ∉ other := fun _ _ h => h.2
  have hlines := forall₂_lines (sameButSilent_lines hs ht hcomment hquiet)
  have hsource : ∀ other ∈ lines s, '\n' ∉ other := fun _ => newline_not_mem_of_mem_lines
  rw [hs, List.forall_mem_append, List.forall_mem_cons] at hsource
  have hsame : ∀ ls : List Text, (∀ other ∈ ls, '\n' ∉ other) →
      List.Forall₂ (fun line other => R line other ∧ ReadsAlike line other) ls ls := by
    intro ls hls
    refine List.forall₂_same.2 fun other hother => ?_
    exact ⟨⟨.inl rfl, hls other hother, hls other hother⟩, .of_dropWhile_eq rfl⟩
  have hline : R line bareComment :=
    ⟨.inr ⟨hquiet.silent hcomment, silent_bareComment⟩, hsource.2.1, by decide⟩
  -- the lines in front, the line itself, and the lines behind
  obtain ⟨hfront, hopen⟩ := scanFrom_alike hfeed (hsame before hsource.1) default 1 .none
  obtain ⟨hsegment, hopen'⟩ :=
    scanLine_overlooked hfeed hline hcomment hquiet (1 + before.length) hopen
  obtain ⟨hback, -⟩ := scanFrom_alike hfeed (hsame after hsource.2.2) default
    (1 + before.length + 1) hopen'
  have hsegments := List.rel_append hfront (List.rel_append (forall₂_toList hsegment) hback)
  rw [functions_eq, functions_eq, hs, ht, scanFrom_append, scanFrom_append, scanFrom, scanFrom]
  exact (List.rel_filterMap (fun _ _ h => h) hsegments).imp
    fun f g h => h.imp fun _ _ hline => hline.1

end Replaced

/-! ### What is found line by line -/

namespace Detector

theorem filterMap_eq_filterMap {α β : Type} {R : α → α → Prop} {write write' : α → Option β}
    (hwrite : ∀ a b, R a b → write a = write' b) {l m : List α} (h : List.Forall₂ R l m) :
    l.filterMap write = m.filterMap write' := by
  induction h with
  | nil => rfl
  | cons hab _ ih => rw [List.filterMap_cons, List.filterMap_cons, hwrite _ _ hab, ih]

theorem successCheck_eq {line other : Text} (h : SameButSilent line other) :
    anyOccurs Idiom.successCheck (codePart line) = anyOccurs Idiom.successCheck (codePart other) := by
  rcases h with rfl | ⟨hline, hother⟩
  · rfl
  · exact hline.2.trans hother.2.symm

theorem callsLowLevel_of_isComment {line : Text} (h : isComment line = true) :
    callsLowLevel line = false := by
  rw [callsLowLevel, h]
  rfl

theorem hasArithmetic_of_isComment {line : Text} (h : isComment line = true) :
    hasArithmetic line = false := by
  rw [hasArithmetic, h]
  rfl

/-- No call is reported on a comment line, and none is checked on a silent one. -/
theorem uncheckedCalls_overlooked {s t : Text} (h : List.Forall₂ SameButSilent (lines s) (lines t))
    (window : Int) : uncheckedCalls window s = uncheckedCalls window t := by
  refine filterMap_eq_filterMap ?_ (forall₂_zipIdx h 0)
  rintro ⟨line, i⟩ ⟨other, j⟩ ⟨hline, hindex⟩
  obtain rfl : i = j := hindex
  have hchecks := any_eq_any (fun _ _ hline => successCheck_eq hline)
    (forall₂_stretch h i (i + window + 1))
  dsimp only [uncheckedAt]
  rcases hline with hline | ⟨hline, hother⟩
  · obtain rfl : line = other := hline
    rw [isChecked, isChecked, hchecks]
  · rw [callsLowLevel_of_isComment hline.1, callsLowLevel_of_isComment hother.1]
    rfl

theorem firstArithmetic?_overlooked {ls ms : List Text} (h : List.Forall₂ SameButSilent ls ms)
    (number : Nat) : firstArithmetic? number ls = firstArithmetic? number ms := by
  induction h generalizing number with
  | nil => rfl
  | cons hline _ ih =>
    rw [firstArithmetic?, firstArithmetic?, ih]
    rcases hline with rfl | ⟨hline, hother⟩
    · rfl
    · rw [hasArithmetic_of_isComment hline.1, hasArithmetic_of_isComment hother.1]
      rfl

theorem overflow_overlooked {s t : Text} (h : List.Forall₂ SameButSilent (lines s) (lines t))
    (hpragma : pragmaVersion s = pragmaVersion t) (safe : List Int) :
    overflow safe s = overflow safe t := by
  have hbelow : overflowBelow safe s = overflowBelow safe t := by
    funext version
    rw [overflowBelow, overflowBelow, firstArithmetic?_overlooked h]
  rw [Auditor.overflow_eq, Auditor.overflow_eq, hpragma, hbelow]

/-! ### What is found function by function -/

theorem codeLines_overlooked {f g : FunctionDef} (h : f.Alike 0 SameButSilent g) :
    codeLines f = codeLines g := by
  have hlines := h.numberedLines
  rw [codeLines, codeLines]
  generalize f.numberedLines = ls at hlines
  generalize g.numberedLines = ms at hlines
  induction hlines with
  | nil => rfl
  | @cons p q _ _ hpq _ ih =>
    obtain ⟨hnumber, hline⟩ := hpq
    rw [List.filter_cons, List.filter_cons, ih]
    rcases hline with hline | ⟨hline, hother⟩
    · have heq : p = q := Prod.ext (by simpa using hnumber.symm) hline
      rw [heq]
    · rw [hline.1, hother.1]
      rfl

theorem reentrancy_overlooked {s t : Text} {default : Visibility}
    (h : List.Forall₂ (FunctionDef.Alike 0 SameButSilent) (functions default s) (functions default t))
    (hguarded : isGuarded s = isGuarded t) :
    reentrancy s (functions default s) = reentrancy t (functions default t) := by
  rw [reentrancy_functions, reentrancy_functions, hguarded]
  refine filterMap_eq_filterMap (fun f g hfg => ?_) h
  rw [codeLines_overlooked hfg, hfg.name_eq]

end Detector

/-- What a draft says, without its quotation and its note. -/
def Draft.verdict (d : Draft) : Category × Severity × Int × Int :=
  (d.category, d.severity, d.lineStart, d.lineEnd)

theorem Detector.accessControl_overlooked {fs gs : List FunctionDef}
    (h : List.Forall₂ (FunctionDef.Alike 0 SameButSilent) fs gs)
    (hchecks : fs.map checksCaller = gs.map checksCaller) :
    (accessControl fs).map Draft.verdict = (accessControl gs).map Draft.verdict := by
  have hfunctions : List.Forall₂ (fun f g => f.Alike 0 SameButSilent g ∧
      changesState f = changesState g ∧ checksCaller f = checksCaller g) fs gs := by
    have hsame := forall₂_iff_map_eq.2 hchecks
    rw [List.forall₂_iff_zip] at h hsame ⊢
    refine ⟨h.1, fun {f g} hmem => ⟨h.2 hmem, ?_, hsame.2 hmem⟩⟩
    rw [changesState, changesState, codeLines_overlooked (h.2 hmem), (h.2 hmem).name_eq]
  refine forall₂_iff_map_eq.1 (accessControl_alike hfunctions fun f g hfg => ?_)
  have hstart : (g.lineStart : Int) = f.lineStart := by simpa using hfg.lineStart_eq
  have hend : (g.lineEnd : Int) = f.lineEnd := by simpa using hfg.lineEnd_eq
  simp only [Draft.verdict, exposedDraft, hfg.payable_eq, hstart, hend]

/-! ### All findings -/

/-- What the program's own inspections find in a source. -/
def verdicts (default : Visibility) (window : Int) (safe : List Int) (source : Text) :
    Except Failure (List (Category × Severity × Int × Int)) :=
  (Inspector.draftsOf source (functions default source) (inspectors window safe)).map
    (List.map Draft.verdict)

theorem verdicts_of_ne_nil (default : Visibility) (window : Int) {safe : List Int} (hsafe : safe ≠ [])
    (source : Text) :
    verdicts default window safe source = Detector.overflow safe source >>= fun unchecked =>
      .ok ((Detector.reentrancy source (functions default source)).map Draft.verdict
        ++ ((Detector.uncheckedCalls window source).map Draft.verdict
        ++ (unchecked.map Draft.verdict
        ++ (Detector.accessControl (functions default source)).map Draft.verdict))) := by
  rw [verdicts, draftsOf_inspectors hsafe]
  cases Detector.overflow safe source with
  | error failure => rfl
  | ok unchecked =>
    show Except.ok (List.map Draft.verdict (standardDrafts _ _ _ _)) = Except.ok _
    rw [standardDrafts, List.map_append, List.map_append, List.map_append]

/-- **Comment lines count only where they are searched.**  A comment line that is not taken for code
can be replaced by a bare one.  The functions stay what they are, bodies apart, and so do the unchecked
calls.  If the source is guarded as before, if its pragma names the same version, and if the same
functions check who calls them, then nothing else is found, whatever the comment says. -/
theorem comment_lines_count_only_where_searched {s t : Text} {before after : List Text} {line : Text}
    (default : Visibility) (hs : lines s = before ++ line :: after)
    (ht : lines t = before ++ bareComment :: after) (hcomment : isComment line = true)
    (hquiet : Overlooked default before line) (window : Int) (safe : List Int) :
    (functions default s).map FunctionDef.outline
      = (functions default t).map FunctionDef.outline ∧
    Detector.uncheckedCalls window s = Detector.uncheckedCalls window t ∧
    (Detector.isGuarded s = Detector.isGuarded t → pragmaVersion s = pragmaVersion t →
      (functions default s).map Detector.checksCaller
        = (functions default t).map Detector.checksCaller →
      verdicts default window safe s = verdicts default window safe t) := by
  have hlines := sameButSilent_lines hs ht hcomment hquiet
  have hfunctions := functions_overlooked hs ht hcomment hquiet
  have hcalls := Detector.uncheckedCalls_overlooked hlines window
  refine ⟨map_outline_eq hfunctions, hcalls, fun hguarded hpragma hchecks => ?_⟩
  have hnamed : ∀ safe : List Int, safe ≠ [] →
      verdicts default window safe s = verdicts default window safe t := by
    intro safe hsafe
    rw [verdicts_of_ne_nil default window hsafe, verdicts_of_ne_nil default window hsafe,
      Detector.reentrancy_overlooked hfunctions hguarded, hcalls,
      Detector.overflow_overlooked hlines hpragma,
      Detector.accessControl_overlooked hfunctions hchecks]
  by_cases hsafe : safe = []
  · -- no version stands for the first safe one
    rw [hsafe]
    exact hnamed firstSafeVersion (by decide)
  · exact hnamed safe hsafe

/-- A payment before a step of a counter, with a comment in front. -/
def payment (comment : Text) : Text :=
  unlines ["pragma solidity ^0.7.0;".toList, "function pay() public \x7b".toList, comment,
    "a.call(x);".toList, "n += 1;".toList, "\x7d".toList]

/-- A line of a block comment that speaks of calls and functions. -/
def loudComment : Text := "/* b.send(y); function g() n++".toList

theorem comment_lines_count_only_where_searched_payment :
    verdicts .public standardWindow [] (payment loudComment)
      = verdicts .public standardWindow [] (payment bareComment) ∧
    verdicts .public standardWindow [] (payment bareComment)
      = .ok [(.reentrancy, .high, 4, 5), (.uncheckedCall, .high, 4, 4), (.overflow, .low, 5, 5),
        (.accessControl, .medium, 2, 6)] := by
  let before : List Text := ["pragma solidity ^0.7.0;".toList, "function pay() public \x7b".toList]
  let after : List Text := ["a.call(x);".toList, "n += 1;".toList, "\x7d".toList]
  have hs : lines (payment loudComment) = before ++ loudComment :: after := by decide +kernel
  have ht : lines (payment bareComment) = before ++ bareComment :: after := by decide +kernel
  have hquiet : Overlooked .public before loudComment := by
    refine .inr ⟨by decide, by decide, by decide +kernel, fun f hf => ?_⟩
    have hopened : (scanFrom .public 1 none before).2.all OpenFunction.opened = true := by
      decide +kernel
    rwa [hf] at hopened
  -- the three searches come out the same
  obtain ⟨hguarded, hversion, hversion', hchecks⟩ :
      Detector.isGuarded (payment loudComment) = Detector.isGuarded (payment bareComment) ∧
      (pragmaVersion (payment loudComment)).toOption = some (some ⟨0, 7, 0⟩) ∧
      (pragmaVersion (payment bareComment)).toOption = some (some ⟨0, 7, 0⟩) ∧
      (functions .public (payment loudComment)).map Detector.checksCaller
        = (functions .public (payment bareComment)).map Detector.checksCaller := by
    decide +kernel
  have hpragma : pragmaVersion (payment loudComment) = pragmaVersion (payment bareComment) := by
    rw [eq_ok_of_toOption hversion, eq_ok_of_toOption hversion']
  obtain ⟨-, -, hverdicts⟩ := comment_lines_count_only_where_searched .public hs ht (by decide) hquiet
    standardWindow []
  refine ⟨hverdicts hguarded hpragma hchecks, eq_ok_of_toOption ?_⟩
  decide +kernel

/-- A function that sets the owner, with a comment in it. -/
def ownerSetter (comment : Text) : Text :=
  unlines ["contract C \x7b".toList, "    function setOwner(address o) public \x7b".toList, comment,
    "        owner = o;".toList, "    \x7d".toList, "\x7d".toList]

/-- A function that checks who calls it in a comment only is not reported, though the comment is not
taken for code. -/
theorem verdicts_ownerSetter :
    isComment "        // TODO: restrict to onlyOwner".toList = true ∧
    (∀ before, Overlooked .public before "        // TODO: restrict to onlyOwner".toList) ∧
    verdicts .public standardWindow [] (ownerSetter "        // TODO: restrict to onlyOwner".toList)
      = .ok [] ∧
    verdicts .public standardWindow [] (ownerSetter bareComment)
      = .ok [(.accessControl, .medium, 2, 5)] := by
  refine ⟨by decide, fun before => ?_, eq_ok_of_toOption ?_, eq_ok_of_toOption ?_⟩
  · exact overlooked_of_slashes .public before (by decide)
  · decide +kernel
  · decide +kernel

end ContractAudit
