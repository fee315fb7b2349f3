import ContractAudit.Proofs.Audit.Strictness

/-!
# The window behind a call, exactly

A low-level call is reported unless its own line keeps the outcome, or a check stands on its line or on
one of the next few.  How many lines that are is the window.

* `IsUnchecked` -- the line with a given number holds an unchecked call, said by line numbers alone;
* `stretch_window`, `mem_stretch_window` -- the lines that are searched, which may run out before the
  window does;
* `mem_uncheckedCalls_iff_isUnchecked` -- which drafts are written;
* `uncheckedCalls_exact` -- the numbers of the reported lines ascend and are those of the unchecked calls,
  a wider window reports some of what a narrower one does, and beyond the length of the source windows
  make no difference.
-/

namespace ContractAudit

open ContractAudit.Text ContractAudit.Source

/-! ### Unchecked calls by line numbers -/

namespace Source

/-- The source has the line, under a number that counts from one. -/
def IsLine (source : Text) (n : Nat) (line : Text) : Prop :=
  1 ≤ n ∧ (lines source)[n - 1]? = some line

/-- Line `n` of the source makes a low-level call and does not keep its outcome, and no check stands on a
line from `n` up to `n + window`, or up to the last line where that comes first. -/
structure IsUnchecked (source : Text) (window n : Nat) (line : Text) : Prop where
  isLine : IsLine source n line
  isCode : isComment line = false
  calls : Idiom.lowLevelCall.occursIn (codePart line) = true
  forgets : ∀ p ∈ Idiom.inlineCheck, p.occursIn (codePart line) = false
  unchecked : ∀ m, n ≤ m → m ≤ min (n + window) (lines source).length →
    ∀ later, IsLine source m later → ∀ p ∈ Idiom.successCheck, p.occursIn (codePart later) = false

theorem IsLine.le_length {source : Text} {n : Nat} {line : Text} (h : IsLine source n line) :
    n ≤ (lines source).length := by
  obtain ⟨hn, hline⟩ := h
  have hlt := (List.getElem?_eq_some_iff.1 hline).1
  omega

end Source

namespace Detector

/-! ### The lines in a window -/

/-- The lines that are searched behind a call: one more than the window, as far as there are any. -/
theorem stretch_window {α : Type} (items : List α) (i w : Nat) :
    stretch items i (i + w + 1) = (items.drop i).take (w + 1) := by
  have hstop : ¬ (i : Int) + w + 1 < 0 := by omega
  simp only [stretch, if_neg hstop]
  rw [List.take_eq_take_iff, List.length_drop]
  omega

theorem mem_stretch_window {source : Text} {i w : Nat} {text : Text} :
    text ∈ stretch (lines source) i (i + w + 1)
      ↔ ∃ m, i + 1 ≤ m ∧ m ≤ i + 1 + w ∧ IsLine source m text := by
  rw [stretch_window, List.mem_iff_getElem?]
  constructor
  · intro h
    obtain ⟨j, hj⟩ := h
    rw [List.getElem?_take, List.getElem?_drop] at hj
    split at hj
    · exact ⟨i + j + 1, by omega, by omega, by omega, hj⟩
    · cases hj
  · intro h
    obtain ⟨m, hfirst, hlast, hm, hline⟩ := h
    refine ⟨m - 1 - i, ?_⟩
    rw [List.getElem?_take_of_lt (by omega), List.getElem?_drop,
      show i + (m - 1 - i) = m - 1 by omega]
    exact hline

/-! ### Which calls are reported -/

theorem anyOccurs_eq_false_iff {patterns : List Pattern} {text : Text} :
    anyOccurs patterns text = false ↔ ∀ p ∈ patterns, p.occursIn text = false := by
  simp [anyOccurs]

/-- A call is not checked if its line does not keep the outcome and no line in its window has a check. -/
theorem isChecked_window_eq_false_iff {source line : Text} {i w : Nat} :
    isChecked line (stretch (lines source) i (i + w + 1)) = false
      ↔ (∀ p ∈ Idiom.inlineCheck, p.occursIn (codePart line) = false) ∧
        ∀ m, i + 1 ≤ m → m ≤ i + 1 + w → ∀ later, IsLine source m later →
          ∀ p ∈ Idiom.successCheck, p.occursIn (codePart later) = false := by
  rw [isChecked, Bool.or_eq_false_iff, anyOccurs_eq_false_iff, List.any_eq_false]
  refine and_congr_right fun _ => ?_
  constructor
  · intro h m hfirst hlast later hlater
    have hmem := mem_stretch_window.2 ⟨m, hfirst, hlast, hlater⟩
    exact anyOccurs_eq_false_iff.1 (by simpa using h later hmem)
  · intro h text htext
    obtain ⟨m, hfirst, hlast, hline⟩ := mem_stretch_window.1 htext
    rw [anyOccurs_eq_false_iff.2 (h m hfirst hlast text hline)]
    exact Bool.false_ne_true

/-- **The drafts that are written** are those about unchecked calls. -/
theorem mem_uncheckedCalls_iff_isUnchecked {source : Text} {w : Nat} {d : Draft} :
    d ∈ uncheckedCalls w source
      ↔ ∃ n line, IsUnchecked source w n line ∧ d = uncheckedDraft n line := by
  rw [mem_uncheckedCalls_iff]
  constructor
  · intro h
    obtain ⟨i, line, hat, hcalls, hunchecked, rfl⟩ := h
    rw [callsLowLevel, Bool.and_eq_true, Bool.not_eq_true'] at hcalls
    obtain ⟨hforgets, hlater⟩ := isChecked_window_eq_false_iff.1 hunchecked
    refine ⟨i + 1, line, ⟨⟨by omega, hat⟩, hcalls.1, hcalls.2, hforgets, ?_⟩, rfl⟩
    intro m hfirst hlast
    exact hlater m hfirst (by omega)
  · intro h
    obtain ⟨n, line, hline, rfl⟩ := h
    obtain ⟨hn, hat⟩ := hline.isLine
    refine ⟨n - 1, line, hat, ?_, ?_, ?_⟩
    · rw [callsLowLevel, hline.isCode, hline.calls]
      rfl
    · rw [isChecked_window_eq_false_iff]
      refine ⟨hline.forgets, ?_⟩
      intro m hfirst hlast later hlater
      have hlength := hlater.le_length
      exact hline.unchecked m (by omega) (by omega) later hlater
    · rw [show ((n - 1 : Nat) : Int) + 1 = n by omega]

/-- Windows that reach the last line from every line find the same. -/
theorem uncheckedCalls_eq_of_length_le {source : Text} {w w' : Nat} (h : (lines source).length ≤ w + 1)
    (h' : (lines source).length ≤ w' + 1) : uncheckedCalls w source = uncheckedCalls w' source := by
  have hscope (i v : Nat) (hv : (lines source).length ≤ v + 1) :
      stretch (lines source) i (i + v + 1) = (lines source).drop i := by
    rw [stretch_window]
    apply List.take_of_length_le
    rw [List.length_drop]
    omega
  refine List.filterMap_congr fun p _ => ?_
  rw [uncheckedAt, uncheckedAt, hscope _ w h, hscope _ w' h']

/-- **The report of unchecked calls is exact, and antitone in the window.**  The numbers of the reported
lines ascend, and a line is reported exactly if it holds an unchecked call.  A wider window reports some of
what a narrower one does, in the same order, and all windows that reach from the first line of the source
to its last report the same. -/
theorem uncheckedCalls_exact (source : Text) (w : Nat) :
    ((uncheckedCalls w source).map Draft.lineStart).Pairwise (· < ·) ∧
    (∀ k : Int, k ∈ (uncheckedCalls w source).map Draft.lineStart
      ↔ ∃ (n : Nat) (line : Text), k = n ∧ IsUnchecked source w n line) ∧
    (∀ w' : Nat, w ≤ w' → (uncheckedCalls w' source).Sublist (uncheckedCalls w source)) ∧
    ∀ w' : Nat, (lines source).length - 1 ≤ w → (lines source).length - 1 ≤ w' →
      uncheckedCalls w' source = uncheckedCalls w source := by
  refine ⟨?_, ?_, ?_, ?_⟩
  · exact List.pairwise_map.2 (uncheckedCalls_ascending w source).lineStart_lt
  · intro k
    rw [List.mem_map]
    constructor
    · intro h
      obtain ⟨d, hd, rfl⟩ := h
      obtain ⟨n, line, hline, rfl⟩ := mem_uncheckedCalls_iff_isUnchecked.1 hd
      exact ⟨n, line, rfl, hline⟩
    · intro h
      obtain ⟨n, line, rfl, hline⟩ := h
      exact ⟨uncheckedDraft n line, mem_uncheckedCalls_iff_isUnchecked.2 ⟨n, line, hline, rfl⟩, rfl⟩
  · intro w' hle
    exact uncheckedCalls_sublist (by omega) (by omega) source
  · intro w' h h'
    exact uncheckedCalls_eq_of_length_le (by omega) (by omega)

/-- Two calls, one with a check two lines below and one on the last line. -/
def lateCheck : Text :=
  "a.call(x);\n\nrequire(ok);\nb.send(y);".toList

theorem uncheckedCalls_exact_lateCheck :
    (∃ line, IsUnchecked lateCheck 1 1 line) ∧ ¬ (∃ line, IsUnchecked lateCheck 2 1 line) ∧
      (uncheckedCalls 2 lateCheck).Sublist (uncheckedCalls 1 lateCheck) ∧
      uncheckedCalls 9 lateCheck = uncheckedCalls 3 lateCheck := by
  obtain ⟨hnear, hfar, hlength⟩ :
      (uncheckedCalls 1 lateCheck).map Draft.lineStart = [1, 4] ∧
      (uncheckedCalls 2 lateCheck).map Draft.lineStart = [4] ∧ (lines lateCheck).length = 4 := by
    decide +kernel
  obtain ⟨-, hlines, hwider, -⟩ := uncheckedCalls_exact lateCheck 1
  obtain ⟨-, hlines', -, -⟩ := uncheckedCalls_exact lateCheck 2
  obtain ⟨-, -, -, hall⟩ := uncheckedCalls_exact lateCheck 3
  refine ⟨?_, ?_, hwider 2 (by decide), hall 9 (by omega) (by omega)⟩
  · obtain ⟨n, line, hn, hline⟩ := (hlines 1).1 (by
      show 1 ∈ (uncheckedCalls 1 lateCheck).map Draft.lineStart
      rw [hnear]
      decide)
    obtain rfl : n = 1 := by omega
    exact ⟨line, hline⟩
  · intro h
    obtain ⟨line, hline⟩ := h
    have hmem : 1 ∈ (uncheckedCalls 2 lateCheck).map Draft.lineStart :=
      (hlines' 1).2 ⟨1, line, rfl, hline⟩
    rw [hfar] at hmem
    exact absurd hmem (by decide)

end Detector

end ContractAudit
