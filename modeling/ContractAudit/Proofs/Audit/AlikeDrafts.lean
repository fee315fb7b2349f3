import ContractAudit.Audit.Detector.AccessControl
import ContractAudit.Proofs.Source.Alike
import ContractAudit.Proofs.Source.Placement
import Mathlib.Data.List.Find

/-!
# Drafts about sources that read alike

Each detector hands on a relation between the lines of two sources to its drafts.  What a detector asks
of a line it asks of the code behind the blanks in front, so it finds something on corresponding lines;
what it then writes down depends on the lines themselves, and how the two drafts are related depends on
how the lines are.

* `uncheckedCalls_alike` -- unchecked calls;
* `callThenWrite?_alike`, `reentrancy_alike` -- calls before a write;
* `accessControl_alike` -- functions that do not check who calls them.

A guard counts wherever it is named, and one that is named in a function is named in the source, so
that all drafts about one source have it or none (`reentrancy_functions`).
-/

namespace ContractAudit.Detector

open ContractAudit.Text ContractAudit.Source

/-! ### Lines -/

theorem any_eq_any {α : Type} {R : α → α → Prop} {test : α → Bool}
    (htest : ∀ a b, R a b → test a = test b) {l m : List α} (h : List.Forall₂ R l m) :
    l.any test = m.any test := by
  induction h with
  | nil => rfl
  | cons hab _ ih => rw [List.any_cons, List.any_cons, htest _ _ hab, ih]

section Lines

variable {line other : Text}

theorem callsOut_eq (h : ReadsAlike line other) : callsOut line = callsOut other :=
  h.ask_codePart Idiom.marginFree_externalCall

theorem callsLowLevel_eq (h : ReadsAlike line other) : callsLowLevel line = callsLowLevel other := by
  rw [callsLowLevel, callsLowLevel, h.isComment_eq, h.ask_codePart Idiom.marginFree_lowLevelCall]

theorem marginFree_anyOccurs {patterns : List Pattern}
    (h : ∀ p ∈ patterns, MarginFree p.occursIn) : MarginFree (anyOccurs patterns) := by
  intro c hc s
  rw [anyOccurs, anyOccurs, Bool.eq_iff_iff, List.any_eq_true, List.any_eq_true]
  exact exists_congr fun p => and_congr_right fun hp => by rw [h p hp c hc]

theorem isChecked_eq (h : ReadsAlike line other) {scope scope' : List Text}
    (hscope : List.Forall₂ ReadsAlike scope scope') : isChecked line scope = isChecked other scope' := by
  have hchecks := any_eq_any (fun _ _ hline =>
    hline.ask_codePart (marginFree_anyOccurs Idiom.marginFree_successCheck)) hscope
  rw [isChecked, isChecked, hchecks,
    h.ask_codePart (marginFree_anyOccurs Idiom.marginFree_inlineCheck)]

end Lines

/-! ### Unchecked calls -/

theorem uncheckedAt_eq_some_iff {window : Int} {ls : List Text} {p : Text × Nat} {d : Draft} :
    uncheckedAt window ls p = some d ↔ callsLowLevel p.1 = true ∧
      isChecked p.1 (stretch ls p.2 (p.2 + window + 1)) = false ∧
      uncheckedDraft (p.2 + 1) p.1 = d := by
  rw [uncheckedAt, Option.ite_none_right_eq_some, Bool.and_eq_true, Bool.not_eq_true', and_assoc,
    Option.some_inj]

/-- Which drafts are written about the calls of a source. -/
theorem mem_uncheckedCalls_iff {window : Int} {source : Text} {d : Draft} :
    d ∈ uncheckedCalls window source
      ↔ ∃ i line, (lines source)[i]? = some line ∧ callsLowLevel line = true ∧
        isChecked line (stretch (lines source) i (i + window + 1)) = false ∧
        uncheckedDraft (i + 1) line = d := by
  rw [uncheckedCalls, List.mem_filterMap]
  constructor
  · intro h
    obtain ⟨⟨line, i⟩, hmem, hmade⟩ := h
    exact ⟨i, line, List.mem_zipIdx_iff_getElem?.1 hmem, uncheckedAt_eq_some_iff.1 hmade⟩
  · intro h
    obtain ⟨i, line, hline, hmade⟩ := h
    exact ⟨(line, i), List.mem_zipIdx_iff_getElem?.2 hline, uncheckedAt_eq_some_iff.2 hmade⟩

theorem forall₂_stretch {R : Text → Text → Prop} {ls ms : List Text} (h : List.Forall₂ R ls ms)
    (start : Nat) (stop : Int) : List.Forall₂ R (stretch ls start stop) (stretch ms start stop) := by
  simp only [stretch, h.length_eq]
  exact List.forall₂_take _ (List.forall₂_drop _ h)

/-- Items that correspond, numbered, the second `k` further down. -/
theorem forall₂_zipIdx_add {α : Type} {R : α → α → Prop} {ls ms : List α} (h : List.Forall₂ R ls ms)
    (n k : Nat) :
    List.Forall₂ (fun p q => R p.1 q.1 ∧ q.2 = p.2 + k) (ls.zipIdx n) (ms.zipIdx (n + k)) := by
  induction h generalizing n with
  | nil => exact .nil
  | cons hline _ ih =>
    have hnext : n + k + 1 = n + 1 + k := by omega
    rw [List.zipIdx_cons, List.zipIdx_cons, hnext]
    exact .cons ⟨hline, rfl⟩ (ih (n + 1))

theorem forall₂_zipIdx {α : Type} {R : α → α → Prop} {ls ms : List α} (h : List.Forall₂ R ls ms)
    (n : Nat) : List.Forall₂ (fun p q => R p.1 q.1 ∧ p.2 = q.2) (ls.zipIdx n) (ms.zipIdx n) :=
  (forall₂_zipIdx_add h n 0).imp fun _ _ hline => ⟨hline.1, hline.2.symm⟩

/-- Unchecked calls are found on corresponding lines. -/
theorem uncheckedCalls_alike {R : Text → Text → Prop}
    (hR : ∀ line other, R line other → ReadsAlike line other) {P : Draft → Draft → Prop}
    (hP : ∀ number line other, R line other →
      P (uncheckedDraft number line) (uncheckedDraft number other))
    {s t : Text} (h : List.Forall₂ R (lines s) (lines t)) (window : Int) :
    List.Forall₂ P (uncheckedCalls window s) (uncheckedCalls window t) := by
  refine List.rel_filterMap ?_ (forall₂_zipIdx h 0)
  rintro ⟨line, i⟩ ⟨other, j⟩ ⟨hline, hindex⟩
  obtain rfl : i = j := hindex
  have hscope := (forall₂_stretch h i (i + window + 1)).imp hR
  dsimp only [uncheckedAt]
  rw [callsLowLevel_eq (hR line other hline), isChecked_eq (hR line other hline) hscope]
  split
  · exact .some (hP (i + 1) line other hline)
  · exact .none

/-! ### Calls before a write -/

theorem codeLines_ascending (f : FunctionDef) : (codeLines f).Pairwise fun p q => p.1 < q.1 :=
  (numberFrom_ascending _ _).filter _

/-- The call and the write that are found are among the lines, in this order. -/
theorem mem_of_callThenWrite? {numbered : List (Int × Text)} {call write : Int × Text}
    (h : callThenWrite? numbered = some (call, write)) :
    call ∈ numbered ∧ write ∈ numbered ∧ call.1 < write.1 := by
  obtain ⟨first, hfirst, hfound⟩ := List.exists_of_findSome?_eq_some h
  obtain ⟨later, hlater, heq⟩ := Option.map_eq_some_iff.1 hfound
  cases heq
  have hlt : call.1 < write.1 := by simpa using List.find?_some hlater
  exact ⟨List.mem_of_mem_filter hfirst, List.mem_of_mem_filter (List.mem_of_find?_eq_some hlater), hlt⟩

theorem findSome?_congr {α β : Type} {f g : α → Option β} {items : List α}
    (h : ∀ a ∈ items, f a = g a) : items.findSome? f = items.findSome? g := by
  induction items with
  | nil => rfl
  | cons a items ih =>
    rw [List.findSome?_cons, List.findSome?_cons, h a List.mem_cons_self,
      ih fun b hb => h b (List.mem_cons_of_mem a hb)]

/-- A line is no later write for itself, nor for a line behind it. -/
theorem laterWrite_cons {p : Int × Text} {n : Int} (hle : p.1 ≤ n) (rest : List (Int × Text)) :
    ((p :: rest).filter fun line => isStateMutation line.2).find? (fun write => decide (n < write.1))
      = (rest.filter fun line => isStateMutation line.2).find? fun write => decide (n < write.1) := by
  rw [List.filter_cons]
  split
  · apply List.find?_cons_of_neg
    rw [decide_eq_true_eq]
    omega
  · rfl

/-- **One pass is enough.**  Where the numbers of the lines ascend, a call on the first line is the one
that is found, with the first write behind it, or else nothing is found at all: no later call has a
write behind it that the first one has not. -/
theorem callThenWrite?_cons {p : Int × Text} {rest : List (Int × Text)}
    (h : (p :: rest).Pairwise fun p q => p.1 < q.1) :
    callThenWrite? (p :: rest)
      = if callsOut p.2 then
          (rest.find? fun line => isStateMutation line.2).map fun write => (p, write)
        else callThenWrite? rest := by
  have hbehind : ∀ q ∈ rest, p.1 < q.1 := fun q hq => List.rel_of_pairwise_cons h hq
  -- the calls behind the first line look for writes behind it only
  have hcalls : (rest.filter fun line => callsOut line.2).findSome? (fun call =>
      (((p :: rest).filter fun line => isStateMutation line.2).find? fun write =>
        decide (call.1 < write.1)).map fun write => (call, write)) = callThenWrite? rest := by
    refine findSome?_congr fun call hcall => ?_
    have hlt := hbehind call (List.mem_of_mem_filter hcall)
    rw [laterWrite_cons (Int.le_of_lt hlt)]
  have hhere : ((p :: rest).filter fun line => isStateMutation line.2).find?
      (fun write => decide (p.1 < write.1)) = rest.find? fun line => isStateMutation line.2 := by
    rw [laterWrite_cons (Int.le_refl _), List.find?_filter]
    exact List.find?_congr fun q hq => by simp [hbehind q hq]
  rw [callThenWrite?]
  split
  · rename_i hcall
    rw [List.filter_cons_of_pos (p := fun line : Int × Text => callsOut line.2) hcall,
      List.findSome?_cons, hhere, hcalls]
    cases hwrite : rest.find? fun line => isStateMutation line.2 with
    | some write => rfl
    | none =>
      have hnone : (rest.filter fun line => isStateMutation line.2) = [] := by
        rw [List.filter_eq_nil_iff]
        exact List.find?_eq_none.1 hwrite
      simp [callThenWrite?, hnone]
  · rename_i hcall
    rw [List.filter_cons_of_neg (p := fun line : Int × Text => callsOut line.2) hcall]
    exact hcalls

section Numbered

variable {S : Int × Text → Int × Text → Prop} (hS : ∀ p q, S p q → ReadsAlike p.2 q.2)
  {ls ms : List (Int × Text)}

include hS

theorem find?_alike (h : List.Forall₂ S ls ms) :
    Option.Rel S (ls.find? fun line => isStateMutation line.2)
      (ms.find? fun line => isStateMutation line.2) := by
  induction h with
  | nil => exact .none
  | @cons p q ls ms hline _ ih =>
    rw [List.find?_cons, List.find?_cons, (hS p q hline).isStateMutation_eq]
    split
    · exact .some hline
    · exact ih

/-- The first call and the first write after it are found on corresponding lines. -/
theorem callThenWrite?_alike (h : List.Forall₂ S ls ms) (hls : ls.Pairwise fun p q => p.1 < q.1)
    (hms : ms.Pairwise fun p q => p.1 < q.1) :
    Option.Rel (fun found found' => S found.1 found'.1 ∧ S found.2 found'.2)
      (callThenWrite? ls) (callThenWrite? ms) := by
  induction h with
  | nil => exact .none
  | @cons p q ls ms hline hrest ih =>
    rw [callThenWrite?_cons hls, callThenWrite?_cons hms, callsOut_eq (hS p q hline)]
    split
    · -- both call here, and then write on corresponding lines
      have hwrite := find?_alike hS hrest
      generalize (ls.find? fun line => isStateMutation line.2) = found at hwrite
      generalize (ms.find? fun line => isStateMutation line.2) = found' at hwrite
      cases hwrite with
      | none => exact .none
      | some hwrite => exact .some ⟨hline, hwrite⟩
    · exact ih (List.pairwise_cons.1 hls).2 (List.pairwise_cons.1 hms).2

end Numbered

/-- A guard that is named in a function is named in the source. -/
theorem isGuarded_of_mem_functions {default : Visibility} {source : Text} {f : FunctionDef}
    (hf : f ∈ functions default source) (h : isGuarded f.body = true) : isGuarded source = true := by
  obtain ⟨before, inside, after, hlines, hstands⟩ := exists_standsBehind hf
  rw [isGuarded, Idiom.occursIn_reentrancyGuard, List.any_eq_true] at h ⊢
  obtain ⟨word, hword, hguard⟩ := h
  refine ⟨word, ?_, hguard⟩
  rw [hstands.body_eq, words_unlines] at hword
  rw [words_eq_flatMap_lines, hlines, List.flatMap_append, List.flatMap_append]
  exact List.mem_append_right _ (List.mem_append_left _ hword)

/-- All drafts about the functions of one source are guarded, or none is. -/
theorem reentrancy_functions (default : Visibility) (source : Text) :
    reentrancy source (functions default source)
      = (functions default source).filterMap fun f =>
          (callThenWrite? (codeLines f)).map (reentrancyDraft f.name (isGuarded source)) := by
  refine List.filterMap_congr fun f hf => ?_
  have hguarded : (isGuarded f.body || isGuarded source) = isGuarded source := by
    rw [Bool.or_eq_right_iff_imp]
    exact isGuarded_of_mem_functions hf
  simp only [hguarded]

section Functions

variable {k : Nat} {R : Text → Text → Prop} (hR : ∀ line other, R line other → ReadsAlike line other)
  {P : Draft → Draft → Prop}

include hR

theorem codeLines_alike {f g : FunctionDef} (h : f.Alike k R g) :
    List.Forall₂ (NumberedAlike k R) (codeLines f) (codeLines g) := by
  refine List.rel_filter ?_ h.numberedLines
  intro p q hline
  dsimp only
  rw [(hR _ _ hline.2).isComment_eq]

/-- Calls before a write are found on corresponding lines. -/
theorem reentrancy_alike {s t : Text} {default : Visibility}
    (hfunctions : List.Forall₂ (FunctionDef.Alike k R) (functions default s) (functions default t))
    (hP : ∀ name found found', NumberedAlike k R found.1 found'.1 →
      NumberedAlike k R found.2 found'.2 →
      P (reentrancyDraft name (isGuarded s) found) (reentrancyDraft name (isGuarded t) found')) :
    List.Forall₂ P (reentrancy s (functions default s)) (reentrancy t (functions default t)) := by
  rw [reentrancy_functions, reentrancy_functions]
  refine List.rel_filterMap (fun f g h => ?_) hfunctions
  have hfound := callThenWrite?_alike (fun p q hline => hR _ _ hline.2) (codeLines_alike hR h)
    (codeLines_ascending f) (codeLines_ascending g)
  rw [h.name_eq]
  generalize callThenWrite? (codeLines f) = found at hfound
  generalize callThenWrite? (codeLines g) = found' at hfound
  cases hfound with
  | none => exact .none
  | some hfound => exact .some (hP f.name _ _ hfound.1 hfound.2)

theorem changesState_eq {f g : FunctionDef} (h : f.Alike k R g) : changesState f = changesState g := by
  have hwrites := any_eq_any (fun _ _ hline => (hR _ _ hline.2).isStateMutation_eq)
    (codeLines_alike hR h)
  rw [changesState, changesState, h.name_eq, hwrites]

end Functions

/-! ### Callers that are not checked -/

/-- Whether a text has a check of the caller does not depend on its spacing. -/
theorem spacingFree_checks : SpacingFree (anyOccurs Idiom.accessCheck) where
  margin := marginFree_anyOccurs fun p hp => (Idiom.spacingFree_accessCheck p hp).margin
  respaced {s t} h := by
    rw [anyOccurs, anyOccurs, Bool.eq_iff_iff, List.any_eq_true, List.any_eq_true]
    exact exists_congr fun p => and_congr_right fun hp => by
      rw [(Idiom.spacingFree_accessCheck p hp).respaced h]

theorem isExposed_eq {k : Nat} {R : Text → Text → Prop} {f g : FunctionDef} (h : f.Alike k R g)
    (hstate : changesState f = changesState g) (hchecks : checksCaller f = checksCaller g) :
    isExposed f = isExposed g := by
  rw [isExposed, isExposed, FunctionDef.isExternallyCallable, FunctionDef.isExternallyCallable,
    FunctionDef.isReadOnly, FunctionDef.isReadOnly, h.visibility_eq, h.mutability_eq, h.payable_eq,
    hstate, hchecks]

/-- Corresponding functions are reported, if the same ones change state and the same ones check who
calls them. -/
theorem accessControl_alike {k : Nat} {R : Text → Text → Prop} {P : Draft → Draft → Prop}
    {fs gs : List FunctionDef}
    (hfunctions : List.Forall₂ (fun f g => f.Alike k R g ∧ changesState f = changesState g ∧
      checksCaller f = checksCaller g) fs gs)
    (hP : ∀ f g, f.Alike k R g → P (exposedDraft f) (exposedDraft g)) :
    List.Forall₂ P (accessControl fs) (accessControl gs) := by
  show List.Forall₂ P ((fs.filter isExposed).map exposedDraft) ((gs.filter isExposed).map exposedDraft)
  rw [List.forall₂_map_left_iff, List.forall₂_map_right_iff]
  have hexposed := List.rel_filter (p := isExposed) (q := isExposed)
    (fun f g h => Bool.eq_iff_iff.1 (isExposed_eq h.1 h.2.1 h.2.2)) hfunctions
  exact hexposed.imp fun f g h => hP f g h.1

end ContractAudit.Detector
