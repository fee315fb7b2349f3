import ContractAudit.Proofs.Audit.AlikeDrafts
import ContractAudit.Proofs.Audit.Quotation
import Mathlib.Order.Bounds.Basic

/-!
# Calls before a write, exactly

What the search for calls before a write finds can be said by line numbers alone, without a search:

* `FunctionDef.callLines`, `FunctionDef.writeLines` -- the lines of a function that call out, and those
  that write, comments apart;
* `FunctionDef.CallsBeforeWrite` -- one of the former comes before one of the latter;
* `callThenWrite?_isLeast`, `isSome_callThenWrite?_iff` -- what is found in any row of lines whose
  numbers ascend, and when something is;
* `reentrancy_exact` -- the drafts about a source: one for each function that calls before it writes, in
  the order of the functions, and all of the same severity.

The numbers of the lines ascend, and so it is enough to look at the first call: a write that comes after
some call comes after the first one.
-/

namespace ContractAudit

open ContractAudit.Text ContractAudit.Source

/-! ### Lines that pass a test -/

namespace Source.FunctionDef

/-- The numbers of the lines of the function that are no comments and pass the test. -/
def linesWhere (f : FunctionDef) (test : Text → Bool) : Set Int :=
  {n | ∃ line, (n, line) ∈ f.numberedLines ∧ isComment line = false ∧ test line = true}

/-- The lines whose code calls out. -/
def callLines (f : FunctionDef) : Set Int :=
  f.linesWhere fun line => Idiom.externalCall.occursIn (codePart line)

/-- The lines that write state. -/
def writeLines (f : FunctionDef) : Set Int :=
  f.linesWhere isStateMutation

/-- Some line calls out, and a later one writes state. -/
def CallsBeforeWrite (f : FunctionDef) : Prop :=
  ∃ call ∈ f.callLines, ∃ write ∈ f.writeLines, call < write

end Source.FunctionDef

namespace Detector

/-- The numbers of the lines in a row that pass the test. -/
def numbersWhere (test : Text → Bool) (numbered : List (Int × Text)) : Set Int :=
  {n | ∃ p ∈ numbered, test p.2 = true ∧ p.1 = n}

/-- The lines of a function without its comments are a row of their own. -/
theorem linesWhere_eq (f : FunctionDef) (test : Text → Bool) :
    f.linesWhere test = numbersWhere test (codeLines f) := by
  ext n
  constructor
  · intro h
    obtain ⟨line, hline, hcode, htest⟩ := h
    have hmem : (n, line) ∈ codeLines f := List.mem_filter.2 ⟨hline, by simp [hcode]⟩
    exact ⟨(n, line), hmem, htest, rfl⟩
  · intro h
    obtain ⟨p, hp, htest, rfl⟩ := h
    have hmem := List.mem_filter.1 hp
    exact ⟨p.2, hmem.1, by simpa using hmem.2, htest⟩

/-! ### One more line in front -/

section Ascending

variable {test : Text → Bool} {p : Int × Text} {rest numbered : List (Int × Text)}

theorem mem_numbersWhere_cons {n : Int} :
    n ∈ numbersWhere test (p :: rest) ↔ test p.2 = true ∧ p.1 = n ∨ n ∈ numbersWhere test rest := by
  simp [numbersWhere]

theorem lt_of_mem_numbersWhere (h : (p :: rest).Pairwise fun p q => p.1 < q.1) {n : Int}
    (hn : n ∈ numbersWhere test rest) : p.1 < n := by
  obtain ⟨q, hq, -, rfl⟩ := hn
  exact List.rel_of_pairwise_cons h hq

theorem le_of_mem_numbersWhere_cons (h : (p :: rest).Pairwise fun p q => p.1 < q.1) {n : Int}
    (hn : n ∈ numbersWhere test (p :: rest)) : p.1 ≤ n := by
  rcases mem_numbersWhere_cons.1 hn with hfirst | hlater
  · exact Int.le_of_eq hfirst.2
  · exact Int.le_of_lt (lt_of_mem_numbersWhere h hlater)

/-- Behind the first line, the numbers are those of the other lines. -/
theorem mem_numbersWhere_of_lt {n : Int} (h : n ∈ numbersWhere test (p :: rest)) (hlt : p.1 < n) :
    n ∈ numbersWhere test rest := by
  rcases mem_numbersWhere_cons.1 h with hfirst | hlater
  · omega
  · exact hlater

/-- The first line that passes has the least number. -/
theorem isLeast_of_find? (h : numbered.Pairwise fun p q => p.1 < q.1)
    (hfound : numbered.find? (fun line => test line.2) = some p) :
    IsLeast (numbersWhere test numbered) p.1 := by
  obtain ⟨hpasses, before, after, rfl, hbefore⟩ := List.find?_eq_some_iff_append.1 hfound
  refine ⟨⟨p, List.mem_of_find?_eq_some hfound, hpasses, rfl⟩, ?_⟩
  intro n hn
  obtain ⟨q, hq, htest, rfl⟩ := hn
  rcases List.mem_append.1 hq with hq | hq
  · have hnot := hbefore q hq
    rw [htest] at hnot
    cases hnot
  · rcases List.mem_cons.1 hq with rfl | hq
    · exact Int.le_refl _
    · have hrow := (List.pairwise_append.1 h).2.1
      exact Int.le_of_lt (List.rel_of_pairwise_cons hrow hq)

/-! ### The search -/

/-- **What is found** is the first line that calls out, and the first line after it that writes. -/
theorem callThenWrite?_isLeast (h : numbered.Pairwise fun p q => p.1 < q.1)
    {call write : Int × Text} (hfound : callThenWrite? numbered = some (call, write)) :
    IsLeast (numbersWhere callsOut numbered) call.1 ∧
      IsLeast {n | n ∈ numbersWhere isStateMutation numbered ∧ call.1 < n} write.1 := by
  induction numbered with
  | nil => cases hfound
  | cons p rest ih =>
    have hrest := (List.pairwise_cons.1 h).2
    rw [callThenWrite?_cons h] at hfound
    split at hfound
    · -- the call is here, and the write is looked for among the other lines
      rename_i hcall
      obtain ⟨found, hwrite, heq⟩ := Option.map_eq_some_iff.1 hfound
      cases heq
      have hleast := isLeast_of_find? hrest hwrite
      refine ⟨⟨mem_numbersWhere_cons.2 (.inl ⟨hcall, rfl⟩), ?_⟩, ?_⟩
      · intro n hn
        exact le_of_mem_numbersWhere_cons h hn
      · refine ⟨⟨mem_numbersWhere_cons.2 (.inr hleast.1), lt_of_mem_numbersWhere h hleast.1⟩, ?_⟩
        intro n hn
        exact hleast.2 (mem_numbersWhere_of_lt hn.1 hn.2)
    · -- the line does not call out, and no write on it comes after the call
      rename_i hcall
      obtain ⟨hfirst, hlater⟩ := ih hrest hfound
      have hlt := lt_of_mem_numbersWhere h hfirst.1
      refine ⟨⟨mem_numbersWhere_cons.2 (.inr hfirst.1), ?_⟩, ?_⟩
      · intro n hn
        rcases mem_numbersWhere_cons.1 hn with hhere | hthere
        · exact absurd hhere.1 hcall
        · exact hfirst.2 hthere
      · refine ⟨⟨mem_numbersWhere_cons.2 (.inr hlater.1.1), hlater.1.2⟩, ?_⟩
        intro n hn
        have hbehind : p.1 < n := Int.lt_trans hlt hn.2
        exact hlater.2 ⟨mem_numbersWhere_of_lt hn.1 hbehind, hn.2⟩

/-- **Something is found** as soon as any call comes before any write. -/
theorem isSome_callThenWrite?_of_lt {c u : Int} (hc : c ∈ numbersWhere callsOut numbered)
    (hu : u ∈ numbersWhere isStateMutation numbered) (hlt : c < u) :
    (callThenWrite? numbered).isSome = true := by
  obtain ⟨call, hcall, hcalls, rfl⟩ := hc
  obtain ⟨write, hwrite, hwrites, rfl⟩ := hu
  simp only [callThenWrite?, List.isSome_findSome?, List.any_eq_true, Option.isSome_map,
    List.find?_isSome, decide_eq_true_eq]
  exact ⟨call, List.mem_filter.2 ⟨hcall, hcalls⟩, write, List.mem_filter.2 ⟨hwrite, hwrites⟩, hlt⟩

end Ascending

/-! ### The functions of a source -/

theorem callLines_eq (f : FunctionDef) : f.callLines = numbersWhere callsOut (codeLines f) :=
  linesWhere_eq f callsOut

theorem writeLines_eq (f : FunctionDef) :
    f.writeLines = numbersWhere isStateMutation (codeLines f) :=
  linesWhere_eq f isStateMutation

/-- What is found in a function. -/
theorem isLeast_of_callThenWrite? {f : FunctionDef} {call write : Int × Text}
    (h : callThenWrite? (codeLines f) = some (call, write)) :
    IsLeast f.callLines call.1 ∧ IsLeast {u | u ∈ f.writeLines ∧ call.1 < u} write.1 := by
  rw [callLines_eq, writeLines_eq]
  exact callThenWrite?_isLeast (codeLines_ascending f) h

theorem isSome_callThenWrite?_iff (f : FunctionDef) :
    (callThenWrite? (codeLines f)).isSome = true ↔ f.CallsBeforeWrite := by
  constructor
  · intro h
    obtain ⟨⟨call, write⟩, hfound⟩ := Option.isSome_iff_exists.1 h
    obtain ⟨hcall, hwrite⟩ := isLeast_of_callThenWrite? hfound
    exact ⟨call.1, hcall.1, write.1, hwrite.1.1, hwrite.1.2⟩
  · intro h
    obtain ⟨c, hc, u, hu, hlt⟩ := h
    rw [callLines_eq] at hc
    rw [writeLines_eq] at hu
    exact isSome_callThenWrite?_of_lt hc hu hlt

instance (f : FunctionDef) : Decidable f.CallsBeforeWrite :=
  decidable_of_iff _ (isSome_callThenWrite?_iff f)

/-- Items that are left out and items that are kept, each with what becomes of it. -/
theorem forall₂_filter_filterMap {α β : Type} {keep : α → Bool} {make : α → Option β}
    {R : α → β → Prop} (hkeep : ∀ a, (make a).isSome = keep a)
    (hR : ∀ a b, make a = some b → R a b) (items : List α) :
    List.Forall₂ R (items.filter keep) (items.filterMap make) := by
  induction items with
  | nil => exact .nil
  | cons a items ih =>
    rw [List.filter_cons, List.filterMap_cons, ← hkeep a]
    cases hmade : make a with
    | none => exact ih
    | some b => exact .cons (hR a b hmade) ih

/-- **The drafts about calls before a write are exact.**  There is one for each function of which a
line that calls out comes before a line that writes, and they stand in the order of the functions.  A
draft starts with the very first line that calls out and ends with the first line after it that writes.
Its severity depends on the source alone: it is lowered if a guard is named anywhere in it.  A guard
that is named in a function is one that is named in the source. -/
theorem reentrancy_exact (default : Visibility) (source : Text) :
    List.Forall₂
      (fun f d => d.category = .reentrancy ∧
        IsLeast f.callLines d.lineStart ∧
        IsLeast {u | u ∈ f.writeLines ∧ d.lineStart < u} d.lineEnd ∧
        d.severity = if Idiom.reentrancyGuard.occursIn source then .medium else .high)
      ((functions default source).filter fun f => f.CallsBeforeWrite)
      (reentrancy source (functions default source)) ∧
    ∀ f ∈ functions default source,
      Idiom.reentrancyGuard.occursIn f.body = true → Idiom.reentrancyGuard.occursIn source = true := by
  refine ⟨?_, fun f hf => isGuarded_of_mem_functions hf⟩
  rw [reentrancy_functions]
  apply forall₂_filter_filterMap
  · intro f
    rw [Option.isSome_map, Bool.eq_iff_iff, isSome_callThenWrite?_iff, decide_eq_true_iff]
  · intro f d hd
    obtain ⟨⟨call, write⟩, hfound, rfl⟩ := Option.map_eq_some_iff.1 hd
    obtain ⟨hcall, hwrite⟩ := isLeast_of_callThenWrite? hfound
    exact ⟨rfl, hcall, hwrite, rfl⟩

/-- A function with two calls and then two writes, under a guard, and one that writes before it calls. -/
def guardedVault : Text :=
  "function p() nonReentrant \x7b\na.call(x);\nb.send(y);\nm++;\nn++;\n\x7d\nfunction q() \x7b\nn++;\na.send(n);\n\x7d".toList

theorem reentrancy_exact_guardedVault :
    ∃ f d, (functions .public guardedVault).filter (fun f => f.CallsBeforeWrite) = [f] ∧
      reentrancy guardedVault (functions .public guardedVault) = [d] ∧
      IsLeast f.callLines 2 ∧ IsLeast {u | u ∈ f.writeLines ∧ 2 < u} 4 ∧ d.severity = .medium ∧
      Idiom.reentrancyGuard.occursIn f.body = true ∧
      Idiom.reentrancyGuard.occursIn guardedVault = true := by
  obtain ⟨hlocated, hone, hbody⟩ :
      (reentrancy guardedVault (functions .public guardedVault)).map
        (fun d => (d.lineStart, d.lineEnd)) = [(2, 4)] ∧
      ((functions .public guardedVault).filter fun f => f.CallsBeforeWrite).length = 1 ∧
      ((functions .public guardedVault).filter fun f => f.CallsBeforeWrite).all
        (fun f => Idiom.reentrancyGuard.occursIn f.body) = true := by
    decide +kernel
  obtain ⟨hexact, hguard⟩ := reentrancy_exact .public guardedVault
  obtain ⟨f, hf⟩ := List.length_eq_one_iff.1 hone
  have hmem : f ∈ functions .public guardedVault := by
    apply List.mem_of_mem_filter (p := fun f => f.CallsBeforeWrite)
    rw [hf]
    exact List.mem_singleton_self f
  rw [hf] at hexact hbody
  have hnamed : Idiom.reentrancyGuard.occursIn f.body = true := by simpa using hbody
  have hsource := hguard f hmem hnamed
  obtain ⟨d, ds, ⟨-, hcall, hwrite, hseverity⟩, hnil, hdrafts⟩ := List.forall₂_cons_left_iff.1 hexact
  cases hnil
  rw [hdrafts, List.map_singleton, List.singleton_inj, Prod.mk.injEq] at hlocated
  rw [hlocated.1] at hcall hwrite
  rw [hlocated.2] at hwrite
  rw [hsource, if_pos rfl] at hseverity
  exact ⟨f, d, hf, hdrafts, hcall, hwrite, hseverity, hnamed, hsource⟩

end Detector

end ContractAudit
