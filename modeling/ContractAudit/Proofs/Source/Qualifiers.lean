import ContractAudit.Proofs.Text.Nesting
import ContractAudit.Proofs.Text.Words
import ContractAudit.Source.FunctionDef

/-!
# Qualifiers

The qualifiers of a signature stand behind its parameters.  The parameters are passed over by
counting parentheses, so whatever they hold is not taken for a qualifier
(`qualifiers_behind_params`); of what follows, the words up to the word `returns` count
(`words_qualifiers`).

A signature is put together from several lines with blanks between them.  Blanks in place of line
ends make no difference for its words (`words_qualifiers_onOneLine`).
-/

namespace ContractAudit.Source

open ContractAudit.Text

/-! ### Passing over the parameters -/

/-- Nested parentheses are passed over, up to the one that closes the outermost pair. -/
theorem afterParens_nested {depth : Nat} {params : Text} (h : NestedFrom '(' ')' depth params)
    (rest : Text) : afterParens (depth + 1) (params ++ ')' :: rest) = rest := by
  induction params generalizing depth with
  | nil =>
    rw [h.depth_eq_zero]
    rfl
  | cons c params ih =>
    rw [List.cons_append, afterParens]
    by_cases hopen : c = '('
    · subst hopen
      rw [if_pos rfl]
      exact ih (h.tail_open (by decide))
    rw [if_neg hopen]
    by_cases hclose : c = ')'
    · subst hclose
      obtain ⟨outer, rfl, houter⟩ := h.tail_close (by decide)
      rw [if_pos rfl, if_neg (by omega)]
      exact ih houter
    · rw [if_neg hclose]
      exact ih (h.tail_other hopen hclose)

/-- **The parameters are passed over.**  Whatever stands in front of the parameters and whatever they
hold, the qualifiers are read from what stands behind them. -/
theorem qualifiers_behind_params {front params : Text} (hfront : '(' ∉ front)
    (hparams : Nested '(' ')' params) (rest : Text) :
    qualifiers (front ++ '(' :: (params ++ ')' :: rest))
      = beforeWord "returns".toList none (rest.takeWhile (· != '{')) := by
  have hdrop : (front ++ '(' :: (params ++ ')' :: rest)).dropWhile (· != '(')
      = '(' :: (params ++ ')' :: rest) :=
    dropWhile_run (forall_bne_of_not_mem hfront) rfl
  have hafter : afterParens 0 ('(' :: (params ++ ')' :: rest)) = rest := by
    rw [afterParens, if_pos rfl]
    exact afterParens_nested hparams rest
  rw [qualifiers, hdrop, hafter]

/-! ### The words that count -/

/-- The words of a text in front of the word `returns`. -/
def wordsBeforeReturns (s : Text) : List Text :=
  (words s).takeWhile (· != "returns".toList)

theorem words_beforeWord_returns (s : Text) :
    words (beforeWord "returns".toList none s) = wordsBeforeReturns s :=
  words_beforeWord (by decide) (List.all_eq_true.1 (by decide)) rfl s

/-- The words of the qualifiers are those behind the parameters, up to the word `returns`. -/
theorem words_qualifiers {front params : Text} (hfront : '(' ∉ front)
    (hparams : Nested '(' ')' params) {rest : Text} (hrest : '{' ∉ rest) :
    words (qualifiers (front ++ '(' :: (params ++ ')' :: rest))) = wordsBeforeReturns rest := by
  rw [qualifiers_behind_params hfront hparams, takeWhile_bne_of_not_mem hrest,
    words_beforeWord_returns]

/-! ### Signatures over several lines -/

/-- The text on one line: a blank in place of each line feed. -/
def onOneLine (s : Text) : Text :=
  s.map fun c => if c = '\n' then ' ' else c

/-- Passing over parentheses does not look at line feeds. -/
theorem afterParens_onOneLine (depth : Nat) (s : Text) :
    afterParens depth (onOneLine s) = onOneLine (afterParens depth s) := by
  induction s generalizing depth with
  | nil => rfl
  | cons c s ih =>
    have hcons : onOneLine (c :: s) = (if c = '\n' then ' ' else c) :: onOneLine s := rfl
    rw [hcons, afterParens, afterParens]
    by_cases hc : c = '\n'
    · subst hc
      simpa using ih depth
    · rw [if_neg hc, ih, ih, ih]
      split
      · rfl
      · split
        · split <;> rfl
        · rfl

/-- The same words count of a signature and of the signature on one line. -/
theorem words_qualifiers_onOneLine (signature : Text) :
    words (qualifiers (onOneLine signature)) = words (qualifiers signature) := by
  have hother (d c : Char) (hd : d ≠ '\n') (hd' : d ≠ ' ') :
      ((if c = '\n' then ' ' else c) != d) = (c != d) := by
    by_cases hc : c = '\n'
    · subst hc
      rw [if_pos rfl, bne_iff_ne.2 hd'.symm, bne_iff_ne.2 hd.symm]
    · rw [if_neg hc]
  have hdrop : (onOneLine signature).dropWhile (· != '(')
      = onOneLine (signature.dropWhile (· != '(')) := by
    rw [onOneLine, List.dropWhile_map]
    congr 2
    funext c
    exact hother '(' c (by decide) (by decide)
  have htake (s : Text) : (onOneLine s).takeWhile (· != '{')
      = onOneLine (s.takeWhile (· != '{')) := by
    rw [onOneLine, List.takeWhile_map]
    congr 2
    funext c
    exact hother '{' c (by decide) (by decide)
  have hwords (s : Text) : words (onOneLine s) = words s := by
    refine words_map (fun c => ?_) (fun c hc => ?_) s
    · by_cases hc : c = '\n'
      · subst hc
        decide
      · rw [if_neg hc]
    · rw [if_neg]
      rintro rfl
      exact absurd hc (by decide)
  rw [qualifiers, qualifiers, hdrop, afterParens_onOneLine, htake, words_beforeWord_returns,
    words_beforeWord_returns, wordsBeforeReturns, wordsBeforeReturns, hwords]

/-! ### Spelled qualifiers -/

/-- The first of the options whose spelling is the word. -/
def spelled? {α : Type} (options : List α) (spelling : α → String) (word : Text) : Option α :=
  options.find? fun a => (spelling a).toList == word

/-- The first of some words that spells one of the options, as that option. -/
def firstSpelled? {α : Type} (options : List α) (spelling : α → String) (ws : List Text) :
    Option α :=
  ws.findSome? (spelled? options spelling)

/-- A word that spells none of the options is passed over. -/
theorem spelled?_eq_none {α : Type} {options : List α} {spelling : α → String} {word : Text}
    (h : (options.map fun a => (spelling a).toList).contains word = false) :
    spelled? options spelling word = none := by
  rw [spelled?, List.find?_eq_none]
  intro a ha hspell
  rw [beq_iff_eq] at hspell
  rw [← Bool.not_eq_true, List.contains_iff_mem] at h
  exact h (List.mem_map.2 ⟨a, ha, hspell⟩)

/-- Finding the first word that is a spelling, and then what it spells, is finding the first word
that spells something. -/
theorem bind_firstWordOf? {α : Type} {options : List α} {spelling : α → String}
    (meaning : Text → Option α)
    (h : ∀ a ∈ options, meaning (spelling a).toList = spelled? options spelling (spelling a).toList)
    (s : Text) :
    (firstWordOf? (options.map fun a => (spelling a).toList) s).bind meaning
      = firstSpelled? options spelling (words s) := by
  rw [firstWordOf?, firstSpelled?]
  induction words s with
  | nil => rfl
  | cons word ws ih =>
    by_cases hword : (options.map fun a => (spelling a).toList).contains word = true
    · obtain ⟨a, ha, rfl⟩ := List.mem_map.1 (List.contains_iff_mem.1 hword)
      have hsome : (spelled? options spelling (spelling a).toList).isSome = true := by
        rw [spelled?, List.find?_isSome]
        exact ⟨a, ha, beq_self_eq_true _⟩
      obtain ⟨b, hb⟩ := Option.isSome_iff_exists.1 hsome
      rw [List.find?_cons_of_pos hword, Option.bind_some, h a ha, List.findSome?_cons, hb]
    · rw [List.find?_cons_of_neg hword, ih, List.findSome?_cons,
        spelled?_eq_none (by simpa using hword)]

/-- The visibility and the mutability of a definition are the first ones that its qualifiers spell. -/
theorem ofSignature_eq (default : Visibility) (name signature : Text) (body : List Text)
    (lineStart lineEnd : Int) :
    FunctionDef.ofSignature default name signature body lineStart lineEnd =
      { name
        visibility := (firstSpelled? Visibility.all Visibility.name
          (words (qualifiers signature))).getD default
        payable := firstSpelled? Mutability.written Mutability.name
          (words (qualifiers signature)) == some .payable
        mutability := (firstSpelled? Mutability.written Mutability.name
          (words (qualifiers signature))).getD .nonpayable
        body := unlines body
        lineStart
        lineEnd } := by
  rw [← bind_firstWordOf? (fun w => Visibility.ofName? (String.ofList w)) (by decide),
    ← bind_firstWordOf? (fun w => Mutability.ofName? (String.ofList w)) (by decide)]
  rfl

end ContractAudit.Source
