import ContractAudit.Proofs.Audit.CallBeforeWrite
import Mathlib.Data.List.Pairwise

/-!
# The detectors corroborate each other

Three detectors look at the same functions by different routes.  One goes through the lines of the
source and looks for low-level calls; one goes through the numbered lines of each function and looks for
calls of any kind; one asks whether any line of a function writes.

* `lowLevelCall_le_externalCall` -- a low-level call is a call: one pattern describes no more than the
  other;
* `mem_numberedLines` -- a line of the source between the first and the last line of a function is one of
  its numbered lines;
* `eq_of_common_line` -- no two functions of a source share a line;
* `exists_reentrancy_of_callsBeforeWrite`, `callsBeforeWrite_of_liesIn` -- which functions the search for
  calls before a write reports;
* `detectors_corroborate` -- an unchecked call before a write is a call before a write, and a function
  with a call before a write that anyone may call is reported for not checking who calls it.
-/

namespace ContractAudit

open ContractAudit.Text ContractAudit.Source

/-! ### Patterns -/

namespace Text.Pattern

/-- Where a pattern can be followed wherever another one can, it occurs in every text in which the other
one does. -/
theorem occursIn_mono {p q : Pattern}
    (h : ∀ previous s, p.startsAt previous s = true → q.startsAt previous s = true) (s : Text) :
    p.occursIn s = true → q.occursIn s = true := by
  show p.occursFrom none s = true → q.occursFrom none s = true
  generalize (none : Option Char) = previous
  induction s generalizing previous with
  | nil => exact h previous []
  | cons c s ih =>
    intro hp
    rw [occursFrom, Bool.or_eq_true] at hp ⊢
    rcases hp with hhere | hlater
    · exact .inl (h previous (c :: s) hhere)
    · exact .inr (ih (some c) hlater)

end Text.Pattern

namespace Source.Idiom

open ContractAudit.Text.Pattern

/-- A call by `send` is one by `send` or `transfer`. -/
theorem run_send {next : Trial} {previous : Option Char} {s : Text}
    (h : (lit ".send").run next previous s = true) :
    (lit ".").run ((oneOf ["send", "transfer"]).run next) previous s = true := by
  obtain ⟨rest, rfl, hnext⟩ := run_lit_iff.1 h
  refine run_lit_iff.2 ⟨"send".toList ++ rest, rfl, ?_⟩
  show ((lit "send").run next _ _ || (lit "transfer").run next _ _) = true
  rw [Bool.or_eq_true]
  exact .inl (run_lit_iff.2 ⟨rest, rfl, hnext⟩)

/-- **A low-level call is a call.** -/
theorem lowLevelCall_le_externalCall {s : Text} (h : lowLevelCall.occursIn s = true) :
    externalCall.occursIn s = true := by
  apply occursIn_mono _ s h
  intro previous s hstart
  show (callTarget.run _ previous s || (lit ".").run ((oneOf ["send", "transfer"]).run _) previous s)
    = true
  have hcases : callTarget.run (fun _ _ => true) previous s = true ∨
      (lit ".send").run (blanks.run ((lit "(").run fun _ _ => true)) previous s = true := by
    rw [← Bool.or_eq_true]
    exact hstart
  rw [Bool.or_eq_true]
  rcases hcases with htarget | hsend
  · exact .inl htarget
  · exact .inr (run_send hsend)

end Source.Idiom

/-! ### Lines and functions -/

namespace Source

/-- A line of the source that lies inside a function is one of its numbered lines. -/
theorem mem_numberedLines {default : Visibility} {source : Text} {f : FunctionDef}
    (hf : f ∈ functions default source) {n : Nat} {line : Text}
    (hline : (lines source)[n - 1]? = some line) (hstart : f.lineStart ≤ n) (hend : n ≤ f.lineEnd) :
    ((n : Int), line) ∈ f.numberedLines := by
  obtain ⟨before, inside, after, hlines, hstands⟩ := exists_standsBehind hf
  rw [hstands.lineStart_eq] at hstart
  rw [hstands.lineEnd_eq] at hend
  have hrange : n ∈ List.range' (before.length + 1) inside.length := by
    rw [List.mem_range'_1]
    omega
  have hnumbered := numberFrom_eq_map_range' before inside after
  rw [← hlines] at hnumbered
  have hmem := List.mem_map_of_mem (f := fun n : Nat => ((n : Int), (lines source)[n - 1]?)) hrange
  rw [← hnumbered, hline] at hmem
  obtain ⟨p, hp, heq⟩ := List.mem_map.1 hmem
  simp only [Prod.mk.injEq, Option.some.injEq] at heq
  rw [numberedLines_eq hstands (newline_not_mem_inside hlines), ← heq.1, ← heq.2]
  exact hp

/-- One of the two functions ends before the other one starts. -/
def FunctionDef.IsApart (f g : FunctionDef) : Prop :=
  f.lineEnd < g.lineStart ∨ g.lineEnd < f.lineStart

instance : Std.Symm FunctionDef.IsApart :=
  ⟨fun _ _ h => h.symm⟩

/-- Two functions of a source that have a line in common are the same. -/
theorem eq_of_common_line {default : Visibility} {source : Text} {f g : FunctionDef}
    (hf : f ∈ functions default source) (hg : g ∈ functions default source) {n : Int}
    (hfn : f.lineStart ≤ n ∧ n ≤ f.lineEnd) (hgn : g.lineStart ≤ n ∧ n ≤ g.lineEnd) : f = g := by
  by_contra hne
  have hall : (functions default source).Pairwise FunctionDef.IsApart :=
    (functions_pairwise default source).imp fun hlt => .inl hlt
  have hapart : f.lineEnd < g.lineStart ∨ g.lineEnd < f.lineStart := hall.forall hf hg hne
  omega

theorem bounds_of_mem_linesWhere {default : Visibility} {source : Text} {f : FunctionDef}
    (hf : f ∈ functions default source) {test : Text → Bool} {n : Int}
    (hn : n ∈ f.linesWhere test) : f.lineStart ≤ n ∧ n ≤ f.lineEnd := by
  obtain ⟨line, hline, -⟩ := hn
  exact (bounds_of_mem_functions hf).2 (n, line) hline

end Source

/-! ### Which functions are reported -/

/-- The draft lies between the first and the last line of the function. -/
def Draft.LiesIn (d : Draft) (f : FunctionDef) : Prop :=
  f.lineStart ≤ d.lineStart ∧ d.lineEnd ≤ f.lineEnd

namespace Detector

variable {default : Visibility} {source : Text} {f : FunctionDef}

/-- A function that calls before it writes is reported, from its first call on. -/
theorem exists_reentrancy_of_callsBeforeWrite (hf : f ∈ functions default source)
    (h : f.CallsBeforeWrite) :
    ∃ d ∈ reentrancy source (functions default source),
      d.LiesIn f ∧ IsLeast f.callLines d.lineStart := by
  have hsome := (isSome_callThenWrite?_iff f).2 h
  obtain ⟨⟨call, write⟩, hfound⟩ := Option.isSome_iff_exists.1 hsome
  obtain ⟨hcall, hwrite⟩ := isLeast_of_callThenWrite? hfound
  refine ⟨reentrancyDraft f.name (isGuarded source) (call, write), ?_, ⟨?_, ?_⟩, hcall⟩
  · rw [reentrancy_functions]
    exact List.mem_filterMap.2 ⟨f, hf, by rw [hfound]; rfl⟩
  · exact (bounds_of_mem_linesWhere hf hcall.1).1
  · exact (bounds_of_mem_linesWhere hf hwrite.1.1).2

/-- A function in which a call before a write is reported calls before it writes. -/
theorem callsBeforeWrite_of_liesIn (hf : f ∈ functions default source) {d : Draft}
    (hd : d ∈ reentrancy source (functions default source)) (hin : d.LiesIn f) :
    f.CallsBeforeWrite := by
  rw [reentrancy_functions] at hd
  obtain ⟨g, hg, hmade⟩ := List.mem_filterMap.1 hd
  obtain ⟨⟨call, write⟩, hfound, rfl⟩ := Option.map_eq_some_iff.1 hmade
  obtain ⟨hcall, hwrite⟩ := isLeast_of_callThenWrite? hfound
  -- the draft is about a function with the same first line, so about this one
  have hgline := bounds_of_mem_linesWhere hg hcall.1
  have hfline : f.lineStart ≤ call.1 ∧ call.1 ≤ f.lineEnd :=
    ⟨hin.1, Int.le_trans (Int.le_of_lt hwrite.1.2) hin.2⟩
  rw [eq_of_common_line hf hg hfline hgline, ← isSome_callThenWrite?_iff, hfound]
  rfl

/-- An unchecked call inside a function is on one of the lines of the function that call out. -/
theorem mem_callLines_of_uncheckedCalls (hf : f ∈ functions default source) {window : Int}
    {d : Draft} (hd : d ∈ uncheckedCalls window source) (hstart : f.lineStart ≤ d.lineStart)
    (hend : d.lineStart ≤ f.lineEnd) : d.lineStart ∈ f.callLines := by
  obtain ⟨i, line, hat, hcalls, -, rfl⟩ := mem_uncheckedCalls_iff.1 hd
  have hline : (lines source)[i + 1 - 1]? = some line := hat
  rw [callsLowLevel, Bool.and_eq_true] at hcalls
  refine ⟨line, mem_numberedLines hf hline hstart hend, by simpa using hcalls.1, ?_⟩
  exact Idiom.lowLevelCall_le_externalCall hcalls.2

/-- A line that writes makes a function change state. -/
theorem changesState_of_mem_writeLines {u : Int} (hu : u ∈ f.writeLines) : changesState f = true := by
  rw [writeLines_eq] at hu
  obtain ⟨p, hp, hwrites, -⟩ := hu
  rw [changesState, Bool.or_eq_true, List.any_eq_true]
  exact .inr ⟨p, hp, hwrites⟩

/-- **The detectors corroborate each other** on every function of a source.  If a line of it is reported
for an unchecked call, whatever the window, and a later line writes, then a call before a write is
reported in it, from that line or an earlier one on.  And if a call before a write is reported in it, and
anyone may call it, and it is not declared to write nothing, and nothing in its body checks who calls it,
then it is reported for that. -/
theorem detectors_corroborate (hf : f ∈ functions default source) :
    (∀ window, ∀ d ∈ uncheckedCalls window source, f.lineStart ≤ d.lineStart →
      d.lineStart ≤ f.lineEnd → (∃ u ∈ f.writeLines, d.lineStart < u) →
      ∃ e ∈ reentrancy source (functions default source),
        e.LiesIn f ∧ e.lineStart ≤ d.lineStart) ∧
    (∀ d ∈ reentrancy source (functions default source), d.LiesIn f →
      f.visibility = .public ∨ f.visibility = .external → f.mutability ≠ .view →
      f.mutability ≠ .pure → (∀ p ∈ Idiom.accessCheck, p.occursIn f.body = false) →
      ∃ e ∈ accessControl (functions default source),
        e.lineStart = f.lineStart ∧ e.lineEnd = f.lineEnd) := by
  constructor
  · intro window d hd hstart hend hwrite
    have hcall := mem_callLines_of_uncheckedCalls hf hd hstart hend
    obtain ⟨u, hu, hlt⟩ := hwrite
    obtain ⟨e, he, hin, hleast⟩ :=
      exists_reentrancy_of_callsBeforeWrite hf ⟨d.lineStart, hcall, u, hu, hlt⟩
    exact ⟨e, he, hin, hleast.2 hcall⟩
  · intro d hd hin hopen hview hpure hchecks
    obtain ⟨-, -, u, hu, -⟩ := callsBeforeWrite_of_liesIn hf hd hin
    have hcallable : f.isExternallyCallable = true := by
      rw [FunctionDef.isExternallyCallable]
      simpa using hopen
    have hwrites : f.isReadOnly = false := by
      rw [FunctionDef.isReadOnly]
      simp [hview, hpure]
    have hnocheck : checksCaller f = false := by
      rw [checksCaller, anyOccurs, List.any_eq_false]
      intro p hp
      simp [hchecks p hp]
    have hexposed : isExposed f = true := by
      rw [isExposed, hcallable, hwrites, hnocheck, changesState_of_mem_writeLines hu, Bool.or_true]
      rfl
    refine ⟨exposedDraft f, ?_, rfl, rfl⟩
    exact List.mem_map.2 ⟨f, List.mem_filter.2 ⟨hf, hexposed⟩, rfl⟩

/-- A function that pays whoever asks, and then makes a note of it. -/
def handout : FunctionDef where
  name := "pay".toList
  visibility := .external
  payable := false
  mutability := .nonpayable
  body := "function pay() external \x7b\nto.send(1);\n\npaid[to] = true;\n\x7d".toList
  lineStart := 2
  lineEnd := 6

/-- The same function behind an empty line. -/
def handoutSource : Text :=
  '\n' :: handout.body

theorem detectors_corroborate_handout :
    ∃ d ∈ uncheckedCalls 0 handoutSource, d.lineStart = 3 ∧
      (∃ e ∈ reentrancy handoutSource (functions .public handoutSource),
        e.LiesIn handout ∧ e.lineStart ≤ d.lineStart) ∧
      ∃ e ∈ accessControl (functions .public handoutSource), e.lineStart = 2 ∧ e.lineEnd = 6 := by
  obtain ⟨hfunctions, hunchecked, hwrites, hmutation, hchecks⟩ :
      functions .public handoutSource = [handout] ∧
      uncheckedCalls 0 handoutSource = [uncheckedDraft 3 "to.send(1);".toList] ∧
      (5, "paid[to] = true;".toList) ∈ handout.numberedLines ∧
      isStateMutation "paid[to] = true;".toList = true ∧
      (Idiom.accessCheck.all fun p => !p.occursIn handout.body) = true := by
    decide +kernel
  have hf : handout ∈ functions .public handoutSource := by
    rw [hfunctions]
    exact List.mem_singleton_self handout
  have hd : uncheckedDraft 3 "to.send(1);".toList ∈ uncheckedCalls 0 handoutSource := by
    rw [hunchecked]
    exact List.mem_singleton_self _
  have hwrite : ∃ u ∈ handout.writeLines, 3 < u :=
    ⟨5, ⟨"paid[to] = true;".toList, hwrites, by decide, hmutation⟩, by decide⟩
  have hnocheck : ∀ p ∈ Idiom.accessCheck, p.occursIn handout.body = false := by
    intro p hp
    simpa using List.all_eq_true.1 hchecks p hp
  obtain ⟨hcalls, hcallers⟩ := detectors_corroborate hf
  obtain ⟨e, he, hin, hle⟩ := hcalls 0 _ hd (by decide) (by decide) hwrite
  obtain ⟨x, hx, hstart, hend⟩ := hcallers e he hin (.inr rfl) (by decide) (by decide) hnocheck
  exact ⟨_, hd, rfl, ⟨e, he, hin, hle⟩, x, hx, hstart, hend⟩

end Detector

end ContractAudit
