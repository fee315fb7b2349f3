import ContractAudit.Text.Basic
import Mathlib.Data.List.Infix

/-!
# Nested brackets

A text is nested in a pair of brackets when none of its fronts closes more of them than it opens, and
the whole text closes as many as it opens.

* `NestedFrom` -- the same for a text that starts inside of some brackets and closes them;
* `Nested` -- a text that starts outside of all;
* `NestedFrom.tail_open`, `tail_close`, `tail_other` -- what is left behind the first character;
* `NestedFrom.cons_open`, `cons_close`, `cons_other` -- the same, with a character put in front.
-/

namespace ContractAudit.Text

/-- Started inside of `depth` pairs of brackets, the text never closes more than are open, and in the
end all are closed. -/
structure NestedFrom (opening closing : Char) (depth : Nat) (s : Text) : Prop where
  closes_le : ∀ front, front <+: s → front.count closing ≤ depth + front.count opening
  closes_eq : s.count closing = depth + s.count opening

/-- The brackets of the text are nested: none is closed that the text did not open, and none is left
open. -/
def Nested (opening closing : Char) (s : Text) : Prop :=
  NestedFrom opening closing 0 s

instance (opening closing : Char) (depth : Nat) (s : Text) :
    Decidable (NestedFrom opening closing depth s) :=
  decidable_of_iff
    ((∀ front ∈ s.inits, front.count closing ≤ depth + front.count opening) ∧
      s.count closing = depth + s.count opening)
    ⟨fun h => ⟨fun front hfront => h.1 front ((List.mem_inits _ _).2 hfront), h.2⟩,
      fun h => ⟨fun front hfront => h.closes_le front ((List.mem_inits _ _).1 hfront), h.closes_eq⟩⟩

instance (opening closing : Char) (s : Text) : Decidable (Nested opening closing s) :=
  inferInstanceAs (Decidable (NestedFrom opening closing 0 s))

namespace NestedFrom

variable {opening closing : Char} {depth : Nat} {s : Text}

theorem depth_eq_zero (h : NestedFrom opening closing depth []) : depth = 0 := by
  have heq := h.closes_eq
  simp only [List.count_nil] at heq
  omega

/-- Behind an opening bracket the text is inside of one pair more. -/
theorem tail_open (hne : opening ≠ closing) (h : NestedFrom opening closing depth (opening :: s)) :
    NestedFrom opening closing (depth + 1) s where
  closes_le := by
    intro front hfront
    have hle := h.closes_le (opening :: front) (List.prefix_cons_inj opening |>.2 hfront)
    rw [List.count_cons_self, List.count_cons_of_ne hne] at hle
    omega
  closes_eq := by
    have heq := h.closes_eq
    rw [List.count_cons_self, List.count_cons_of_ne hne] at heq
    omega

/-- A closing bracket closes one that is open. -/
theorem tail_close (hne : opening ≠ closing) (h : NestedFrom opening closing depth (closing :: s)) :
    ∃ outer, depth = outer + 1 ∧ NestedFrom opening closing outer s := by
  have hone := h.closes_le [closing] (List.prefix_cons_inj closing |>.2 (List.nil_prefix))
  rw [List.count_cons_self, List.count_cons_of_ne hne.symm, List.count_nil, List.count_nil] at hone
  refine ⟨depth - 1, by omega, ⟨fun front hfront => ?_, ?_⟩⟩
  · have hle := h.closes_le (closing :: front) (List.prefix_cons_inj closing |>.2 hfront)
    rw [List.count_cons_self, List.count_cons_of_ne hne.symm] at hle
    omega
  · have heq := h.closes_eq
    rw [List.count_cons_self, List.count_cons_of_ne hne.symm] at heq
    omega

/-- Any other character changes nothing. -/
theorem tail_other {c : Char} (hopen : c ≠ opening) (hclose : c ≠ closing)
    (h : NestedFrom opening closing depth (c :: s)) : NestedFrom opening closing depth s where
  closes_le := by
    intro front hfront
    have hle := h.closes_le (c :: front) (List.prefix_cons_inj c |>.2 hfront)
    rw [List.count_cons_of_ne hclose, List.count_cons_of_ne hopen] at hle
    exact hle
  closes_eq := by
    have heq := h.closes_eq
    rw [List.count_cons_of_ne hclose, List.count_cons_of_ne hopen] at heq
    exact heq

/-! ### A character in front -/

theorem nil : NestedFrom opening closing 0 [] where
  closes_le := by
    intro front hfront
    rw [List.prefix_nil.1 hfront]
    exact Nat.le_refl 0
  closes_eq := rfl

/-- An opening bracket in front of a text that is inside of one pair. -/
theorem cons_open (hne : opening ≠ closing) (h : NestedFrom opening closing (depth + 1) s) :
    NestedFrom opening closing depth (opening :: s) where
  closes_le := by
    intro front hfront
    rcases List.prefix_cons_iff.1 hfront with rfl | ⟨rest, rfl, hrest⟩
    · exact Nat.zero_le _
    · have hle := h.closes_le rest hrest
      rw [List.count_cons_self, List.count_cons_of_ne hne]
      omega
  closes_eq := by
    have heq := h.closes_eq
    rw [List.count_cons_self, List.count_cons_of_ne hne]
    omega

/-- A closing bracket in front, for a text that is then outside of one pair. -/
theorem cons_close (hne : opening ≠ closing) (h : NestedFrom opening closing depth s) :
    NestedFrom opening closing (depth + 1) (closing :: s) where
  closes_le := by
    intro front hfront
    rcases List.prefix_cons_iff.1 hfront with rfl | ⟨rest, rfl, hrest⟩
    · exact Nat.zero_le _
    · have hle := h.closes_le rest hrest
      rw [List.count_cons_self, List.count_cons_of_ne hne.symm]
      omega
  closes_eq := by
    have heq := h.closes_eq
    rw [List.count_cons_self, List.count_cons_of_ne hne.symm]
    omega

theorem cons_other {c : Char} (hopen : c ≠ opening) (hclose : c ≠ closing)
    (h : NestedFrom opening closing depth s) : NestedFrom opening closing depth (c :: s) where
  closes_le := by
    intro front hfront
    rcases List.prefix_cons_iff.1 hfront with rfl | ⟨rest, rfl, hrest⟩
    · exact Nat.zero_le _
    · rw [List.count_cons_of_ne hclose, List.count_cons_of_ne hopen]
      exact h.closes_le rest hrest
  closes_eq := by
    rw [List.count_cons_of_ne hclose, List.count_cons_of_ne hopen]
    exact h.closes_eq

end NestedFrom

end ContractAudit.Text
