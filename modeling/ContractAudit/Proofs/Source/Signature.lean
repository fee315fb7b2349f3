import ContractAudit.Proofs.Source.Qualifiers
import ContractAudit.Proofs.Text.WholeWord
import Mathlib.Data.List.TakeWhile

/-!
# What is read of a signature

A signature is a name, parameters in parentheses, and what is said about the function behind them.  The
parentheses may be nested to any depth, and the word `returns` ends what counts.  Here both searches are
said by cuts of the text: where the parameters end, and where the word stands first.

* `WholeWordBehind`, `CutAtWord` -- a whole word behind a front of the text, and the text cut at the first
  one;
* `length_beforeWord_le`, `beforeWord_stops` -- the search does not go past a word, and stops at one or at
  the end;
* `beforeWord_eq_iff` -- the search for a word finds that cut and no other;
* `FirstParenUnclosed` -- the parameters are opened and never end;
* `closed_or_afterParens_eq_nil` -- counting parentheses either comes to the end of the parameters or leaves
  nothing;
* `qualifiers_ignore_parameters` -- what is read of every signature.

The second side of the search for a word is the text alone: neither statement mentions how the search goes
from place to place.
-/

namespace ContractAudit.Text

/-! ### Cutting at a whole word -/

/-- The word stands behind the front of the text, and no word character touches it on either side. -/
def WholeWordBehind (word s front : Text) : Prop :=
  ∃ back, s = front ++ (word ++ back) ∧ front.getLast?.any isWord = false ∧
    back.head?.any isWord = false

/-- What a text is cut down to at its first whole word `word`; a text without it stays as it is. -/
def CutAtWord (word s cut : Text) : Prop :=
  (WholeWordBehind word s cut ∧ ∀ front, WholeWordBehind word s front → cut.length ≤ front.length) ∨
    (cut = s ∧ ∀ front, ¬ WholeWordBehind word s front)

theorem wholeWordBehind_iff {word s front : Text} :
    WholeWordBehind word s front ↔
      ∃ back, s = front ++ back ∧ startsWord word front.getLast? back = true := by
  simp only [startsWord_iff]
  constructor
  · intro h
    obtain ⟨back, rfl, hfront, hback⟩ := h
    exact ⟨word ++ back, rfl, hfront, back, rfl, hback⟩
  · intro h
    obtain ⟨_, rfl, hfront, back, rfl, hback⟩ := h
    exact ⟨back, rfl, hfront, hback⟩

theorem beforeWord_of_startsWord {word s : Text} {previous : Option Char}
    (h : startsWord word previous s = true) : beforeWord word previous s = [] := by
  cases s with
  | nil => rfl
  | cons c s => rw [beforeWord, if_pos h]

/-- The search does not go past a place where the word stands. -/
theorem length_beforeWord_le {word : Text} {previous : Option Char} {front back : Text}
    (h : startsWord word (front.getLast?.or previous) back = true) :
    (beforeWord word previous (front ++ back)).length ≤ front.length := by
  induction front generalizing previous with
  | nil =>
    have hhere : startsWord word previous back = true := h
    rw [List.nil_append, beforeWord_of_startsWord hhere]
  | cons c front ih =>
    rw [Pattern.getLast?_cons_or] at h
    rw [List.cons_append, beforeWord]
    split
    · exact Nat.zero_le _
    · exact Nat.succ_le_succ (ih h)

/-- The search ends where the word stands, or at the end of the text. -/
theorem beforeWord_stops (word : Text) (previous : Option Char) (s : Text) :
    (∃ back, s = beforeWord word previous s ++ back ∧
      startsWord word ((beforeWord word previous s).getLast?.or previous) back = true) ∨
    beforeWord word previous s = s := by
  induction s generalizing previous with
  | nil => exact .inr rfl
  | cons c s ih =>
    rw [beforeWord]
    by_cases hhere : startsWord word previous (c :: s) = true
    · rw [if_pos hhere]
      exact .inl ⟨c :: s, rfl, hhere⟩
    · rw [if_neg hhere]
      rcases ih (some c) with ⟨back, hs, hlater⟩ | hend
      · refine .inl ⟨back, ?_, ?_⟩
        · rw [List.cons_append, ← hs]
        · rw [Pattern.getLast?_cons_or]
          exact hlater
      · exact .inr (congrArg (c :: ·) hend)

theorem cutAtWord_beforeWord {word : Text} (hne : word ≠ []) (s : Text) :
    CutAtWord word s (beforeWord word none s) := by
  have hfirst : ∀ front, WholeWordBehind word s front →
      (beforeWord word none s).length ≤ front.length := by
    intro front hfront
    obtain ⟨back, rfl, hstands⟩ := wholeWordBehind_iff.1 hfront
    exact length_beforeWord_le (by rwa [Option.or_none])
  rcases beforeWord_stops word none s with ⟨back, hs, hstands⟩ | hend
  · rw [Option.or_none] at hstands
    exact .inl ⟨wholeWordBehind_iff.2 ⟨back, hs, hstands⟩, hfirst⟩
  · -- a word that stood anywhere would have stopped the search before the end
    refine .inr ⟨hend, fun front hfront => ?_⟩
    have hle := hfirst front hfront
    obtain ⟨back, hs, -, -⟩ := hfront
    have hpos := List.length_pos_iff.2 hne
    rw [hend, hs, List.length_append, List.length_append] at hle
    omega

/-- A text has one cut at its first whole word. -/
theorem CutAtWord.unique {word s cut other : Text} (h : CutAtWord word s cut)
    (hother : CutAtWord word s other) : cut = other := by
  rcases h with ⟨hcut, hfirst⟩ | ⟨rfl, hnone⟩
  · rcases hother with ⟨hcut', hfirst'⟩ | ⟨-, hnone⟩
    · have hlength : cut.length = other.length :=
        Nat.le_antisymm (hfirst other hcut') (hfirst' cut hcut)
      obtain ⟨back, hs, -, -⟩ := hcut
      obtain ⟨back', hs', -, -⟩ := hcut'
      exact (List.append_inj (hs.symm.trans hs') hlength).1
    · exact absurd hcut (hnone cut)
  · rcases hother with ⟨hcut', -⟩ | ⟨rfl, -⟩
    · exact absurd hcut' (hnone other)
    · rfl

/-- **The search for a word finds the first one**, or keeps all of a text that does not have it. -/
theorem beforeWord_eq_iff {word : Text} (hne : word ≠ []) {s cut : Text} :
    beforeWord word none s = cut ↔ CutAtWord word s cut := by
  constructor
  · intro h
    subst h
    exact cutAtWord_beforeWord hne s
  · intro hcut
    exact (cutAtWord_beforeWord hne s).unique hcut

end ContractAudit.Text

namespace ContractAudit.Source

open ContractAudit.Text

/-! ### Parameters that never end -/

/-- The signature has a parenthesis, and no nested text behind the first one is followed by a parenthesis
that closes it. -/
def FirstParenUnclosed (signature : Text) : Prop :=
  ∃ front rest, signature = front ++ '(' :: rest ∧ '(' ∉ front ∧
    ∀ params back, Nested '(' ')' params → rest ≠ params ++ ')' :: back

/-- Counting parentheses from inside of some comes to the one that closes the outermost pair, with a nested
text in front of it, or leaves nothing. -/
theorem closed_or_afterParens_eq_nil (depth : Nat) (s : Text) :
    (∃ params back, s = params ++ ')' :: back ∧ NestedFrom '(' ')' depth params) ∨
      afterParens (depth + 1) s = [] := by
  induction s generalizing depth with
  | nil => exact .inr rfl
  | cons c s ih =>
    rw [afterParens]
    by_cases hopen : c = '('
    · subst hopen
      rw [if_pos rfl]
      rcases ih (depth + 1) with ⟨params, back, rfl, hparams⟩ | hnil
      · exact .inl ⟨'(' :: params, back, rfl, hparams.cons_open (by decide)⟩
      · exact .inr hnil
    rw [if_neg hopen]
    by_cases hclose : c = ')'
    · subst hclose
      rw [if_pos rfl]
      cases depth with
      | zero => exact .inl ⟨[], s, rfl, NestedFrom.nil⟩
      | succ outer =>
        rw [if_neg (by omega)]
        rcases ih outer with ⟨params, back, rfl, hparams⟩ | hnil
        · exact .inl ⟨')' :: params, back, rfl, hparams.cons_close (by decide)⟩
        · exact .inr hnil
    · rw [if_neg hclose]
      rcases ih depth with ⟨params, back, rfl, hparams⟩ | hnil
      · exact .inl ⟨c :: params, back, rfl, hparams.cons_other hopen hclose⟩
      · exact .inr hnil

theorem qualifiers_of_not_mem {signature : Text} (h : '(' ∉ signature) : qualifiers signature = [] := by
  have hdrop : signature.dropWhile (· != '(') = [] :=
    List.dropWhile_eq_nil_iff.2 (forall_bne_of_not_mem h)
  rw [qualifiers, hdrop]
  rfl

theorem qualifiers_of_unclosed {signature : Text} (h : FirstParenUnclosed signature) :
    qualifiers signature = [] := by
  obtain ⟨front, rest, rfl, hfront, hunclosed⟩ := h
  have hdrop : (front ++ '(' :: rest).dropWhile (· != '(') = '(' :: rest :=
    dropWhile_run (forall_bne_of_not_mem hfront) rfl
  have hafter : afterParens 1 rest = [] := by
    rcases closed_or_afterParens_eq_nil 0 rest with ⟨params, back, hrest, hparams⟩ | hnil
    · exact absurd hrest (hunclosed params back hparams)
    · exact hnil
  rw [qualifiers, hdrop, afterParens, if_pos rfl, hafter]
  rfl

/-! ### Signatures -/

/-- **The parameters do not count.**  Behind parameters of any nesting, what is read of a signature is the
text up to the first brace, cut at its first whole word `returns`, whatever the parameters hold and
whatever stands in front of them.  Of a signature without parameters, or whose parameters never end,
nothing is read. -/
theorem qualifiers_ignore_parameters :
    (∀ front params rest : Text, '(' ∉ front → Nested '(' ')' params →
      ∀ cut, qualifiers (front ++ '(' :: (params ++ ')' :: rest)) = cut ↔
        CutAtWord "returns".toList (rest.takeWhile (· != '{')) cut) ∧
    ∀ signature : Text, '(' ∉ signature ∨ FirstParenUnclosed signature → qualifiers signature = [] := by
  refine ⟨?_, ?_⟩
  · intro front params rest hfront hparams cut
    rw [qualifiers_behind_params hfront hparams, beforeWord_eq_iff (by decide)]
  · intro signature h
    rcases h with hnone | hunclosed
    · exact qualifiers_of_not_mem hnone
    · exact qualifiers_of_unclosed hunclosed

/-- Where no front of the rest closes more parentheses than it opens, the first one stays open. -/
theorem firstParenUnclosed_of_counts {front rest : Text} (hfront : '(' ∉ front)
    (h : ∀ part ∈ rest.inits, part.count ')' ≤ part.count '(') :
    FirstParenUnclosed (front ++ '(' :: rest) := by
  refine ⟨front, rest, rfl, hfront, ?_⟩
  intro params back hparams hrest
  subst hrest
  have hpart : params ++ [')'] ∈ (params ++ ')' :: back).inits := by
    rw [List.mem_inits]
    exact ⟨back, by rw [List.append_assoc]; rfl⟩
  have hle := h _ hpart
  have heq := hparams.closes_eq
  rw [List.count_append, List.count_append, List.count_singleton_self,
    List.count_eq_zero_of_not_mem (show '(' ∉ [')'] by decide)] at hle
  omega

/-- A payable parameter and one with parentheses of its own, a name that starts like `returns`; and a
parameter whose closing parenthesis is the only one. -/
theorem qualifiers_ignore_parameters_callback :
    ('(' ∉ "function pay".toList ∧
      Nested '(' ')' "address payable to, function(uint) external f".toList ∧
      qualifiers ("function pay".toList ++ '(' :: ("address payable to, function(uint) external f".toList
          ++ ')' :: " virtual returns_all returns (bool) \x7b".toList))
        = " virtual returns_all ".toList) ∧
    FirstParenUnclosed ("function pay".toList ++ '(' :: "(uint a) payable".toList) ∧
    qualifiers ("function pay".toList ++ '(' :: "(uint a) payable".toList) = [] := by
  have hfront : '(' ∉ "function pay".toList := by decide
  have hparams : Nested '(' ')' "address payable to, function(uint) external f".toList := by
    decide +kernel
  have hunclosed : FirstParenUnclosed ("function pay".toList ++ '(' :: "(uint a) payable".toList) :=
    firstParenUnclosed_of_counts hfront (by decide +kernel)
  refine ⟨⟨hfront, hparams, ?_⟩, hunclosed, qualifiers_ignore_parameters.2 _ (.inr hunclosed)⟩
  apply (qualifiers_ignore_parameters.1 _ _ _ hfront hparams _).2
  exact (beforeWord_eq_iff (by decide)).1 (by decide +kernel)

end ContractAudit.Source
