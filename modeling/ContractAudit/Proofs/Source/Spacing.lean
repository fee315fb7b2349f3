import ContractAudit.Proofs.Source.Header
import ContractAudit.Proofs.Source.Qualifiers
import ContractAudit.Proofs.Text.PatternSpacing
import ContractAudit.Proofs.Text.WholeWord
import ContractAudit.Source.Line

/-!
# Spacing in source

What the analyses ask of a source does not depend on how it is spaced.

* Of a single line, blanks in front do not matter: for whether it is a comment, for the header and the
  code on it, and for each idiom (`startsVisibly_callTarget` and what follows it).
* Of a text of several lines, no spacing matters: for the number of declarations
  (`spacingFree_declarationCount`), for the words of the qualifiers of a signature
  (`words_qualifiers_respaced`), for a guard (`spacingFree_reentrancyGuard`) and for a check of the
  caller (`spacingFree_accessCheck`).
-/

namespace ContractAudit.Source

open ContractAudit.Text ContractAudit.Text.Pattern

/-! ### Lines -/

theorem marginFree_trim : MarginFree trim := by
  intro c hc s
  rw [trim, trim, marginFree_dropWhile c hc]

theorem marginFree_isComment : MarginFree isComment := by
  intro c hc s
  rw [isComment, isComment, marginFree_trim c hc]

theorem marginFree_isBlankText : MarginFree isBlankText := by
  intro c hc s
  rw [isBlankText, List.all_cons, hc, Bool.true_and]
  rfl

/-- The code of a line keeps the blanks in front of it. -/
theorem codePart_cons {c : Char} (hc : isBlank c = true) (s : Text) :
    codePart (c :: s) = c :: codePart s := by
  have hslash : "//".toList.isPrefixOf (c :: s) = false := by
    have hne : ('/' == c) = false := by
      rw [beq_eq_false_iff_ne]
      rintro rfl
      cases hc
    show ('/' == c && _) = false
    rw [hne, Bool.false_and]
  rw [codePart, before, hslash]
  rfl

/-- The visible code of a line. -/
theorem marginFree_code : MarginFree fun line => (codePart line).dropWhile isBlank := by
  intro c hc s
  dsimp only
  rw [codePart_cons hc, marginFree_dropWhile c hc]

/-! ### Headers and declarations -/

/-- A declaration starts with a word. -/
theorem declaredName?_eq_none {c : Char} (hc : isWord c = false) (s : Text) :
    declaredName? (c :: s) = none := by
  have hne : 'f' ≠ c := by
    rintro rfl
    revert hc
    decide
  have hafter : after? "function".toList (c :: s) = none := by
    rw [keyword_eq, keyword, after?, if_neg hne]
  rw [declaredName?, hafter]

/-- Of the character in front of a text only matters whether it belongs to a word. -/
theorem headerFrom?_previous {previous previous' : Option Char}
    (h : previous.any isWord = previous'.any isWord) (s : Text) :
    headerFrom? previous s = headerFrom? previous' s := by
  cases s with
  | nil => rfl
  | cons c s => rw [headerFrom?_cons, headerFrom?_cons, h]

theorem marginFree_header? : MarginFree header? := by
  intro c hc s
  have hword := isWord_of_isBlank hc
  have hname : headerName? (c :: s) = none := by rw [headerName?, declaredName?_eq_none hword]
  have hbefore : headerFrom? (some c) s = headerFrom? none s :=
    headerFrom?_previous (show (some c).any isWord = none.any isWord from hword) s
  rw [header?, headerFrom?_cons, hname, hbefore]
  rfl

theorem declarationsFrom_previous {previous previous' : Option Char}
    (h : previous.any isWord = previous'.any isWord) (s : Text) :
    declarationsFrom previous 0 s = declarationsFrom previous' 0 s := by
  cases s with
  | nil => rfl
  | cons c s => rw [declarationsFrom, declarationsFrom, h]

theorem declarationsFrom_cons_of_not_isWord {c : Char} (hc : isWord c = false)
    (previous : Option Char) (s : Text) :
    declarationsFrom previous 0 (c :: s) = declarationsFrom none 0 s := by
  have hnone : (if previous.any isWord then none else declarationLength? (c :: s)) = none := by
    rw [declarationLength?, declaredName?_eq_none hc, Option.map_none, ite_self]
  rw [declarationsFrom, hnone]
  exact declarationsFrom_previous (show (some c).any isWord = none.any isWord from hc) s

theorem declarationsFrom_skip (previous : Option Char) (front rest : Text) :
    ∃ last, declarationsFrom previous front.length (front ++ rest) = declarationsFrom last 0 rest := by
  induction front generalizing previous with
  | nil => exact ⟨previous, rfl⟩
  | cons c front ih => exact ih (some c)

/-- The name of a declaration is a whole word. -/
theorem head?_of_declaredName? {s name rest : Text} (h : declaredName? s = some (name, rest)) :
    rest.head?.any isWord = false := by
  unfold declaredName? at h
  split at h
  · cases h
  · split at h
    · cases h
    · simp only at h
      split at h
      · cases h
      · obtain ⟨-, rfl⟩ := Prod.mk.inj (Option.some.inj h)
        exact head?_dropWhile_any isWord _

/-- **Step.**  A declaration is counted and the count goes on behind it; where none starts, it goes on
with the next character. -/
theorem declarationsFrom_cons (previous : Option Char) (c : Char) (s : Text) :
    declarationsFrom previous 0 (c :: s)
      = (if previous.any isWord then none else declaredName? (c :: s)).elim
          (declarationsFrom (some c) 0 s) fun found => 1 + declarationsFrom none 0 found.2 := by
  rw [declarationsFrom, declarationLength?]
  by_cases hprevious : previous.any isWord = true
  · rw [if_pos hprevious, if_pos hprevious]
    rfl
  rw [if_neg hprevious, if_neg hprevious]
  cases hfound : declaredName? (c :: s) with
  | none => rfl
  | some found =>
    obtain ⟨name, rest⟩ := found
    obtain ⟨gap, hs, -⟩ := exists_of_declaredName? hfound
    have hrest := head?_of_declaredName? hfound
    -- the declaration is a front of the text, of which the first character has been read
    obtain ⟨front, hfront⟩ : ∃ front, s = front ++ rest := by
      rw [keyword_eq, keyword, List.cons_append, List.cons.injEq] at hs
      exact ⟨_, by rw [hs.2, List.append_assoc, List.append_assoc]⟩
    have hlength : (c :: s).length - rest.length - 1 = front.length := by
      rw [hfront, List.length_cons, List.length_append]
      omega
    obtain ⟨last, hskip⟩ := declarationsFrom_skip (some c) front rest
    have hbehind : declarationsFrom last 0 rest = declarationsFrom none 0 rest := by
      cases rest with
      | nil => rfl
      | cons d rest =>
        rw [declarationsFrom_cons_of_not_isWord hrest, declarationsFrom_cons_of_not_isWord hrest]
    show 1 + declarationsFrom (some c) ((c :: s).length - rest.length - 1) s = _
    rw [hlength, hfront, hskip, hbehind]
    rfl

theorem declaredName?_respaced {s t : Text} (h : Respaced s t) :
    Option.Rel (fun found found' => found.1 = found'.1 ∧ Respaced found.2 found'.2)
      (declaredName? s) (declaredName? t) := by
  have hkeyword : ∀ c ∈ "function".toList, isBlank c = false := by
    rw [keyword_eq]
    exact fun c hc => isBlank_of_isWord (List.all_eq_true.1 (by decide : keyword.all isWord = true) c hc)
  have hafter := h.after? hkeyword
  rw [declaredName?, declaredName?]
  generalize after? "function".toList s = behind at hafter
  generalize after? "function".toList t = behind' at hafter
  cases hafter with
  | none => exact .none
  | @some s t h =>
    have hname := h.dropWhile fun _ hc => hc
    dsimp only
    rw [h.head?_any fun _ hc => hc, hname.takeWhile_eq fun _ hc => isWord_of_isBlank hc]
    split
    · exact .none
    · split
      · exact .none
      · exact .some ⟨rfl, hname.dropWhile_run fun _ hc => isWord_of_isBlank hc⟩

/-- **Run.**  The count comes out the same in texts that differ in their spacing alone. -/
theorem declarationsFrom_respaced {s t : Text} (h : Respaced s t) {previous previous' : Option Char}
    (hprevious : previous.any isWord = previous'.any isWord) :
    declarationsFrom previous 0 s = declarationsFrom previous' 0 t := by
  have hgap : ∀ {b : Text}, IsGap b → ∀ previous s,
      declarationsFrom previous 0 (b ++ s) = declarationsFrom none 0 s := by
    intro b hb previous s
    have hfree : MarginFree (declarationsFrom none 0) :=
      fun c hc s => declarationsFrom_cons_of_not_isWord (isWord_of_isBlank hc) none s
    obtain ⟨c, rest, rfl, hc⟩ := hb.exists_cons
    rw [List.cons_append, declarationsFrom_cons_of_not_isWord (isWord_of_isBlank hc),
      hfree.blanks_append fun d hd => hb.2 d (List.mem_cons_of_mem c hd)]
  -- the induction is on the length, since the count goes on behind a whole declaration
  induction hn : s.length using Nat.strongRecOn generalizing s t previous previous' with
  | ind n ih =>
    subst hn
    cases h with
    | nil => rfl
    | @gap b b' s t hb hb' h =>
      rw [hgap hb, hgap hb']
      have hpos := List.length_pos_of_ne_nil hb.1
      refine ih s.length ?_ h rfl rfl
      rw [List.length_append]
      omega
    | @visible c s t hc h =>
      have hnext : declarationsFrom (some c) 0 s = declarationsFrom (some c) 0 t :=
        ih s.length (Nat.lt_succ_self _) h rfl rfl
      have hfound := declaredName?_respaced (.visible hc h)
      have hshorter : ∀ found, declaredName? (c :: s) = some found →
          found.2.length < (c :: s).length := by
        intro found hs
        obtain ⟨gap, hs, -⟩ := exists_of_declaredName? hs
        rw [hs, keyword_eq, keyword]
        simp only [List.length_append, List.length_cons]
        omega
      rw [declarationsFrom_cons, declarationsFrom_cons, hprevious]
      split
      · exact hnext
      · generalize declaredName? (c :: s) = found at hfound hshorter
        generalize declaredName? (c :: t) = found' at hfound
        cases hfound with
        | none => exact hnext
        | @some found found' hrest =>
          have hlater : declarationsFrom none 0 found.2 = declarationsFrom none 0 found'.2 :=
            ih found.2.length (hshorter found rfl) hrest.2 rfl rfl
          show 1 + declarationsFrom none 0 found.2 = 1 + declarationsFrom none 0 found'.2
          rw [hlater]

/-- **The number of declarations** does not depend on spacing. -/
theorem spacingFree_declarationCount : SpacingFree declarationCount where
  margin _ hc s := declarationsFrom_cons_of_not_isWord (isWord_of_isBlank hc) none s
  respaced h := declarationsFrom_respaced h rfl

/-! ### Qualifiers -/

theorem afterParens_respaced {s t : Text} (h : Respaced s t) (depth : Nat) :
    Respaced (afterParens depth s) (afterParens depth t) := by
  induction h generalizing depth with
  | nil => exact .nil
  | @visible c s t _ h ih =>
    rw [afterParens, afterParens]
    split
    · exact ih _
    · split
      · split
        · exact h
        · exact ih _
      · exact ih _
  | @gap b b' s t hb hb' _ ih =>
    -- blanks are no parentheses
    have hfree : MarginFree (afterParens depth) := by
      intro c hc s
      have hopen : c ≠ '(' := by
        rintro rfl
        cases hc
      have hclose : c ≠ ')' := by
        rintro rfl
        cases hc
      rw [afterParens, if_neg hopen, if_neg hclose]
    rw [hfree.blanks_append hb.2, hfree.blanks_append hb'.2]
    exact ih depth

/-- **The words of the qualifiers** of a signature do not depend on its spacing. -/
theorem words_qualifiers_respaced {s t : Text} (h : Respaced s t) :
    words (qualifiers s) = words (qualifiers t) := by
  have hother : ∀ {d : Char}, isBlank d = false → ∀ c, isBlank c = true → (c != d) = true := by
    intro d hd c hc
    rw [bne_iff_ne]
    rintro rfl
    rw [hc] at hd
    cases hd
  have hparams := h.dropWhile (hother (by decide : isBlank '(' = false))
  have hbehind := (afterParens_respaced hparams 0).takeWhile (hother (by decide : isBlank '{' = false))
  rw [qualifiers, qualifiers, words_beforeWord_returns, words_beforeWord_returns, wordsBeforeReturns,
    wordsBeforeReturns, hbehind.words_eq]

/-! ### Idioms of a line -/

namespace Idiom

theorem startsVisibly_callTarget (next : Trial) : StartsVisibly (callTarget.run next) :=
  startsVisibly_or (startsVisibly_lit (by decide) _) (startsVisibly_lit (by decide) _)

theorem marginFree_externalCall : MarginFree externalCall.occursIn :=
  marginFree_occursIn
    (startsVisibly_or (startsVisibly_callTarget _) (startsVisibly_lit (by decide) _))

theorem marginFree_lowLevelCall : MarginFree lowLevelCall.occursIn :=
  marginFree_occursIn
    (startsVisibly_or (startsVisibly_callTarget _) (startsVisibly_lit (by decide) _))

theorem startsVisibly_condition (next : Trial) : StartsVisibly (condition.run next) :=
  startsVisibly_wordEdge (startsVisibly_oneOf (by decide) _)

theorem marginFree_successCheck : ∀ p ∈ successCheck, MarginFree p.occursIn := by
  simp only [successCheck, List.forall_mem_cons]
  exact ⟨marginFree_occursIn (startsVisibly_condition _),
    marginFree_occursIn (startsVisibly_condition _), List.forall_mem_nil _⟩

theorem marginFree_inlineCheck : ∀ p ∈ inlineCheck, MarginFree p.occursIn := by
  simp only [inlineCheck, List.forall_mem_cons]
  exact ⟨marginFree_occursIn (startsVisibly_lit (by decide) _),
    marginFree_occursIn (startsVisibly_wordEdge (startsVisibly_lit (by decide) _)),
    List.forall_mem_nil _⟩

theorem marginFree_increment : MarginFree increment.occursIn :=
  marginFree_occursIn (startsVisibly_oneOf (by decide) _)

theorem marginFree_mappingAssignment : MarginFree mappingAssignment.occursIn :=
  marginFree_occursIn (startsVisibly_someWord _)

theorem marginFree_scopedVariable : MarginFree scopedVariable.occursIn :=
  marginFree_occursIn (startsVisibly_wordEdge (startsVisibly_oneOf (by decide) _))

theorem marginFree_assignment : MarginFree assignment.occursIn :=
  marginFree_occursIn (startsVisibly_notAfter (contains_of_isBlank (by decide))
    (startsVisibly_maybe
      (startsVisibly_or (startsVisibly_or (startsVisibly_among (by decide) _)
        (startsVisibly_lit (by decide) _)) (startsVisibly_lit (by decide) _))
      (startsVisibly_lit (by decide) _)))

theorem startsVisibly_valueType (next : Trial) : StartsVisibly (valueType.run next) := by
  refine startsVisibly_or (startsVisibly_or (startsVisibly_or (startsVisibly_or (startsVisibly_or
    ?_ ?_) ?_) ?_) ?_) ?_
  · exact startsVisibly_maybe (startsVisibly_lit (by decide) _) (startsVisibly_lit (by decide) _)
  all_goals exact startsVisibly_lit (by decide) _

theorem marginFree_localDeclaration : MarginFree localDeclaration.occursIn :=
  marginFree_occursIn_textStart (fun _ _ => rfl)
    (skipsBlanks_or (startsVisibly_lit (by decide) _).skipsBlanks
      (skipsBlanks_blanks (startsVisibly_valueType _).skipsBlanks))

theorem marginFree_forHeader : MarginFree forHeader.occursIn :=
  marginFree_occursIn_textStart (fun _ _ => rfl) (startsVisibly_lit (by decide) _).skipsBlanks

/-! ### Idioms of a source -/

/-- A guard is a word of the text. -/
theorem occursIn_reentrancyGuard (s : Text) :
    reentrancyGuard.occursIn s = (words s).any fun word =>
      word == "nonReentrant".toList || "ReentrancyGuard".toList.isPrefixOf word :=
  ((testsWords_wholeWord (by decide) (by decide)).or
    (testsWords_wordStart (by decide) (by decide))).occursIn_eq_any_words s

theorem spacingFree_reentrancyGuard : SpacingFree reentrancyGuard.occursIn where
  margin c hc s := by
    rw [occursIn_reentrancyGuard, occursIn_reentrancyGuard, spacingFree_words.margin c hc]
  respaced h := by
    rw [occursIn_reentrancyGuard, occursIn_reentrancyGuard, spacingFree_words.respaced h]

/-- Blanks and then a visible text that ends the pattern. -/
theorem ignoresSpacing_blanks_lit {string : String}
    (hlead : (string.toList.head?.any fun c => !isBlank c) = true)
    (h : (string.toList.all fun c => !isBlank c) = true) :
    IgnoresSpacing (blanks.run ((lit string).run fun _ _ => true)) :=
  ignoresSpacing_blanks (startsVisibly_lit hlead _) (ignoresSpacing_lit h ignoresSpacing_true)

theorem isWord_of_isUpper {c : Char} (h : c.isUpper = true) : isWord c = true := by
  have hascii : c.toNat < 128 := by
    have hrange : 'A'.val ≤ c.val ∧ c.val ≤ 'Z'.val := of_decide_eq_true h
    exact Nat.lt_of_le_of_lt (UInt32.le_iff_toNat_le.1 hrange.2) (by decide)
  rw [isWord, if_pos hascii]
  show (((c.isUpper || c.isLower) || c.isDigit) || c == '_') = true
  rw [h]
  rfl

theorem spacingFree_accessCheck : ∀ p ∈ accessCheck, SpacingFree p.occursIn := by
  have hupper : ∀ c, isBlank c = true → (c.isUpper || c == '_') = false := by
    intro c hc
    have hword := isWord_of_isBlank hc
    rw [← Bool.not_eq_true, Bool.or_eq_true, beq_iff_eq]
    rintro (hletter | rfl)
    · rw [isWord_of_isUpper hletter] at hword
      cases hword
    · cases hc
  simp only [accessCheck, List.forall_mem_cons]
  refine ⟨?_, ?_, ?_, ?_, List.forall_mem_nil _⟩
  · exact spacingFree_occursIn (startsVisibly_wordEdge (startsVisibly_lit (by decide) _))
      (ignoresSpacing_wordEdge (ignoresSpacing_lit (by decide) (ignoresSpacing_one hupper
        (ignoresSpacing_wordChars (ignoresSpacing_wordEdge ignoresSpacing_true)))))
  · exact spacingFree_occursIn (startsVisibly_wordEdge (startsVisibly_lit (by decide) _))
      (ignoresSpacing_wordEdge (ignoresSpacing_lit (by decide)
        (ignoresSpacing_blanks_lit (by decide) (by decide))))
  · exact spacingFree_occursIn (startsVisibly_wordEdge (startsVisibly_lit (by decide) _))
      (ignoresSpacing_wordEdge (ignoresSpacing_lit (by decide)
        (ignoresSpacing_or
          (ignoresSpacing_lit (by decide) (ignoresSpacing_blanks_lit (by decide) (by decide)))
          (ignoresSpacing_lit (by decide) (ignoresSpacing_blanks_lit (by decide) (by decide))))))
  · refine spacingFree_occursIn
      (startsVisibly_or (startsVisibly_lit (by decide) _) (startsVisibly_among (by decide) _))
      (ignoresSpacing_or ?_ ?_)
    · exact ignoresSpacing_lit (by decide) (ignoresSpacing_blanks
        (startsVisibly_among (by decide) _)
        (ignoresSpacing_among (by decide) (ignoresSpacing_lit (by decide) ignoresSpacing_true)))
    · exact ignoresSpacing_among (by decide) (ignoresSpacing_lit (by decide)
        (ignoresSpacing_blanks_lit (by decide) (by decide)))

end Idiom

end ContractAudit.Source
