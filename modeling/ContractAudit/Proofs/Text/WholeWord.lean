import ContractAudit.Proofs.Text.Words
import ContractAudit.Text.Pattern

/-!
# Patterns for whole words

A pattern between two word edges looks for whole words.  So to search a text for it is to go through
the words of the text.

* `TestsWords` -- a pattern that can be followed just where a word starts that passes a test;
* `occursIn_eq_any_words` -- it occurs in a text exactly when one of the words passes;
* `testsWords_wholeWord`, `testsWords_wordStart` -- a given word, and words with a given start.
-/

namespace ContractAudit.Text.Pattern

/-- The pattern can be followed where a word starts that passes the test, and nowhere else. -/
structure TestsWords (p : Pattern) (test : Text → Bool) : Prop where
  inside : ∀ {previous : Option Char}, previous.any isWord = true → ∀ s, p.startsAt previous s = false
  outside : ∀ {s : Text}, s.head?.any isWord = false → ∀ previous, p.startsAt previous s = false
  here : ∀ {previous : Option Char} {run rest : Text}, previous.any isWord = false → run ≠ [] →
    (∀ c ∈ run, isWord c = true) → rest.head?.any isWord = false →
    p.startsAt previous (run ++ rest) = test run

namespace TestsWords

variable {p q : Pattern} {test test' : Text → Bool}

/-- Inside a word nothing is found. -/
theorem occursFrom_run (h : TestsWords p test) {run : Text} (hrun : ∀ c ∈ run, isWord c = true)
    {previous : Option Char} (hprevious : previous.any isWord = true) {rest : Text}
    (hrest : rest.head?.any isWord = false) :
    p.occursFrom previous (run ++ rest) = p.occursFrom none rest := by
  induction run generalizing previous with
  | nil =>
    cases rest with
    | nil => exact (h.inside hprevious []).trans (h.outside hrest none).symm
    | cons c rest =>
      rw [List.nil_append, occursFrom, occursFrom, h.outside hrest, h.outside hrest]
  | cons c run ih =>
    rw [List.cons_append, occursFrom, h.inside hprevious, Bool.false_or]
    exact ih (fun d hd => hrun d (List.mem_cons_of_mem c hd)) (hrun c List.mem_cons_self)

/-- **To search for whole words is to go through the words.** -/
theorem occursFrom_eq_any_words (h : TestsWords p test) {previous : Option Char}
    (hprevious : previous.any isWord = false) (s : Text) :
    p.occursFrom previous s = (words s).any test := by
  -- the induction goes from one run of word characters to the next
  induction hn : s.length using Nat.strongRecOn generalizing s previous with
  | ind n ih =>
    subst hn
    cases s with
    | nil => exact h.outside rfl previous
    | cons c s =>
      by_cases hc : isWord c = true
      · obtain ⟨run, rest, hs, hne, hrun, hrest⟩ := exists_run hc s
        have hlength : rest.length < (c :: s).length := by
          have hpos := List.length_pos_iff.2 hne
          rw [hs, List.length_append]
          omega
        have hlater : p.occursFrom none rest = (words rest).any test :=
          ih rest.length hlength Option.any_none rest rfl
        rw [hs, words_run hne hrun hrest, List.any_cons, ← hlater, ← h.here hprevious hne hrun hrest]
        obtain ⟨d, run, rfl⟩ := List.exists_cons_of_ne_nil hne
        rw [List.cons_append, occursFrom, h.occursFrom_run
          (fun e he => hrun e (List.mem_cons_of_mem d he))
          (show (some d).any isWord = true from hrun d List.mem_cons_self) hrest]
      · have hc' : isWord c = false := by simpa using hc
        have hlater : p.occursFrom (some c) s = (words s).any test :=
          ih s.length (Nat.lt_succ_self _) (show (some c).any isWord = false from hc') s rfl
        rw [occursFrom, h.outside (show (c :: s).head?.any isWord = false from hc'), Bool.false_or,
          words_cons hc', hlater]

theorem occursIn_eq_any_words (h : TestsWords p test) (s : Text) :
    p.occursIn s = (words s).any test :=
  h.occursFrom_eq_any_words Option.any_none s

theorem or (hp : TestsWords p test) (hq : TestsWords q test') :
    TestsWords (p ||| q) fun word => test word || test' word where
  inside hprevious s := by
    show (p.startsAt _ s || q.startsAt _ s) = false
    rw [hp.inside hprevious, hq.inside hprevious]
    rfl
  outside hs previous := by
    show (p.startsAt previous _ || q.startsAt previous _) = false
    rw [hp.outside hs, hq.outside hs]
    rfl
  here hprevious hne hrun hrest := by
    show (p.startsAt _ _ || q.startsAt _ _) = _
    rw [hp.here hprevious hne hrun hrest, hq.here hprevious hne hrun hrest]

end TestsWords

/-! ### Words that are spelled out -/

/-- The character in front of what follows, one character further on. -/
theorem getLast?_cons_or (c : Char) (s : Text) (previous : Option Char) :
    (c :: s).getLast?.or previous = s.getLast?.or (some c) := by
  cases s with
  | nil => rfl
  | cons d s => simp [List.getLast?_cons]

/-- Following the characters of a string. -/
theorem run_lit_iff {string : String} {next : Trial} {previous : Option Char} {s : Text} :
    (lit string).run next previous s = true ↔
      ∃ rest, s = string.toList ++ rest ∧ next (string.toList.getLast?.or previous) rest = true := by
  rw [lit]
  generalize string.toList = chars
  induction chars generalizing previous s with
  | nil =>
    constructor
    · intro h
      exact ⟨s, rfl, h⟩
    · rintro ⟨rest, rfl, h⟩
      exact h
  | cons d chars ih =>
    rw [getLast?_cons_or]
    cases s with
    | nil =>
      constructor
      · intro h
        cases h
      · rintro ⟨rest, hrest, -⟩
        cases hrest
    | cons c s =>
      show (c == d && (chars.foldr _ nothing).run next (some c) s) = true ↔ _
      rw [Bool.and_eq_true, beq_iff_eq, ih]
      constructor
      · rintro ⟨rfl, rest, rfl, h⟩
        exact ⟨rest, rfl, h⟩
      · rintro ⟨rest, hrest, h⟩
        obtain ⟨rfl, rfl⟩ := List.cons.inj hrest
        exact ⟨rfl, rest, rfl, h⟩

/-- From inside a word, going on to its end. -/
theorem run_wordChars_wordEdge {last : Option Char} (hlast : last.any isWord = true) (s : Text) :
    wordChars.run (wordEdge.run fun _ _ => true) last s = true := by
  show runMany isWord (wordEdge.run fun _ _ => true) last s = true
  induction s generalizing last with
  | nil => simp [runMany, run, hlast]
  | cons c s ih =>
    rw [runMany]
    by_cases hc : isWord c = true
    · rw [hc, ih (show (some c).any isWord = true from hc), Bool.and_self, Bool.or_true]
    · simp [run, hlast, hc]

section Spelled

variable {string : String} (hne : string.toList ≠ []) (hword : string.toList.all isWord = true)

include hne hword

theorem head?_append_isWord (rest : Text) : (string.toList ++ rest).head?.any isWord = true := by
  obtain ⟨d, chars, hd⟩ := List.exists_cons_of_ne_nil hne
  rw [hd] at hword ⊢
  exact List.all_eq_true.1 hword d List.mem_cons_self

theorem getLast?_or_isWord (previous : Option Char) :
    (string.toList.getLast?.or previous).any isWord = true := by
  rw [List.getLast?_eq_some_getLast hne]
  exact List.all_eq_true.1 hword _ (List.getLast_mem hne)

/-- A word edge in front of a word that is spelled out: the text starts with the word, which no word
character runs into. -/
theorem run_wordEdge_lit_iff {next : Trial} {previous : Option Char} {s : Text} :
    wordEdge.run ((lit string).run next) previous s = true ↔
      previous.any isWord = false ∧ ∃ rest, s = string.toList ++ rest ∧
        next (string.toList.getLast?.or previous) rest = true := by
  rw [run, Bool.and_eq_true, run_lit_iff]
  constructor
  · rintro ⟨hedge, rest, rfl, h⟩
    rw [head?_append_isWord hne hword] at hedge
    exact ⟨by simpa using hedge, rest, rfl, h⟩
  · rintro ⟨hprevious, rest, rfl, h⟩
    rw [head?_append_isWord hne hword, hprevious]
    exact ⟨rfl, rest, rfl, h⟩

/-- A pattern that can be followed behind a word that is spelled out, at its start, is a test of words
if what it asks of the rest of the text is a question about the word that the text starts with. -/
theorem testsWords_of_startsAt_iff {p : Pattern} {test : Text → Bool} (After : Text → Prop)
    (hstart : ∀ previous s, p.startsAt previous s = true ↔
      previous.any isWord = false ∧ ∃ rest, s = string.toList ++ rest ∧ After rest)
    (htest : ∀ {run rest : Text}, (∀ c ∈ run, isWord c = true) → rest.head?.any isWord = false →
      ((∃ later, run ++ rest = string.toList ++ later ∧ After later) ↔ test run = true)) :
    TestsWords p test where
  inside hprevious s := by
    rw [← Bool.not_eq_true, hstart, hprevious]
    rintro ⟨hfalse, -⟩
    cases hfalse
  outside {s} hs previous := by
    rw [← Bool.not_eq_true, hstart]
    rintro ⟨-, rest, rfl, -⟩
    rw [head?_append_isWord hne hword] at hs
    cases hs
  here hprevious _ hrun hrest := by
    rw [Bool.eq_iff_iff, hstart, ← htest hrun hrest]
    exact and_iff_right hprevious

/-- **A given word**, between word edges. -/
theorem testsWords_wholeWord :
    TestsWords (wordEdge ++ lit string ++ wordEdge) (· == string.toList) := by
  refine testsWords_of_startsAt_iff hne hword (fun rest => rest.head?.any isWord = false)
    (fun previous s => ?_) fun {run rest} hrun hrest => ?_
  · refine (run_wordEdge_lit_iff hne hword).trans ?_
    simp [run, getLast?_or_isWord hne hword]
  · rw [beq_iff_eq]
    constructor
    · rintro ⟨later, hsame, hlater⟩
      have hcut := congrArg (List.takeWhile isWord) hsame
      rwa [takeWhile_run hrun hrest, takeWhile_run (List.all_eq_true.1 hword) hlater] at hcut
    · rintro rfl
      exact ⟨rest, rfl, hrest⟩

/-- **Words with a given start**, between word edges. -/
theorem testsWords_wordStart :
    TestsWords (wordEdge ++ lit string ++ wordChars ++ wordEdge) string.toList.isPrefixOf := by
  refine testsWords_of_startsAt_iff hne hword (fun _ => True) (fun previous s => ?_)
    fun {run rest} hrun hrest => ?_
  · refine (run_wordEdge_lit_iff hne hword).trans ?_
    simp only [run_wordChars_wordEdge (getLast?_or_isWord hne hword previous)]
  · rw [List.isPrefixOf_iff_prefix]
    constructor
    · rintro ⟨later, hsame, -⟩
      have hcut := congrArg (List.takeWhile isWord) hsame
      rw [takeWhile_run hrun hrest, List.takeWhile_append_of_pos (List.all_eq_true.1 hword)] at hcut
      exact ⟨_, hcut.symm⟩
    · rintro ⟨later, rfl⟩
      exact ⟨later ++ rest, List.append_assoc _ _ _, trivial⟩

end Spelled

end ContractAudit.Text.Pattern
