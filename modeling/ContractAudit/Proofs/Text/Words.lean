import ContractAudit.Proofs.Text.Pieces
import ContractAudit.Text.Blank
import ContractAudit.Text.Word

/-!
# Words and blanks

No character is both blank and part of a word (`isWord_of_isBlank`).  The classes are given by
tables of code points, so this is a fact about two tables: no run of the one meets a run of the
other.

The words of a text are told by two equations: a character outside of words separates what stands in
front of it from what stands behind it (`words_append_cons`), and a run of word characters up to such
a character is one word (`words_run`).  From them:

* `words_beforeWord` -- cutting a text in front of a whole word cuts its words in front of that word;
* `words_map` -- an exchange of characters outside of words leaves the words as they are.
-/

namespace ContractAudit.Text

/-! ### Tables without a common code point -/

/-- Whether no run of the one table meets a run of the other. -/
def CodeTable.isApart (t u : CodeTable) : Bool :=
  t.all fun a => u.all fun b => Nat.blt a.2 b.1 || Nat.blt b.2 a.1

theorem CodeTable.not_holds_of_isApart {t u : CodeTable} (h : t.isApart u = true) {n : Nat}
    (ht : t.holds n = true) : u.holds n = false := by
  rw [← Bool.not_eq_true]
  intro hu
  simp only [holds, List.any_eq_true, Bool.and_eq_true, decide_eq_true_eq] at ht hu
  obtain ⟨a, ha, han⟩ := ht
  obtain ⟨b, hb, hbn⟩ := hu
  simp only [isApart, List.all_eq_true, Bool.or_eq_true, Nat.blt_eq] at h
  have hab := h a ha b hb
  omega

/-- The blank characters as runs of code points. -/
def blankTable : CodeTable :=
  [(0x09, 0x0D), (0x1C, 0x20), (0x85, 0x85), (0xA0, 0xA0), (0x1680, 0x1680), (0x2000, 0x200A),
   (0x2028, 0x2028), (0x2029, 0x2029), (0x202F, 0x202F), (0x205F, 0x205F), (0x3000, 0x3000)]

theorem blankTable_holds_of_isBlank {c : Char} (h : isBlank c = true) :
    blankTable.holds c.toNat = true := by
  -- a single code point is a run of its own
  have hrun (n a : Nat) : (n == a) = (decide (a ≤ n) && decide (n ≤ a)) := by
    rw [Bool.eq_iff_iff, beq_iff_eq, Bool.and_eq_true, decide_eq_true_eq, decide_eq_true_eq]
    omega
  simp only [isBlank, hrun] at h
  simpa only [CodeTable.holds, blankTable, List.any_cons, List.any_nil, Bool.or_false,
    Bool.or_assoc] using h

theorem blankTable_isApart_wordTable : blankTable.isApart wordTable = true := by
  decide +kernel

theorem isWord_ascii_blank : ∀ n < 128, isBlank (Char.ofNat n) = true →
    isWord (Char.ofNat n) = false := by
  decide

/-- **Blanks are no word characters.** -/
theorem isWord_of_isBlank {c : Char} (h : isBlank c = true) : isWord c = false := by
  by_cases hc : c.toNat < 128
  · have hascii := isWord_ascii_blank c.toNat hc
    rw [Char.ofNat_toNat] at hascii
    exact hascii h
  · rw [isWord, if_neg hc]
    exact CodeTable.not_holds_of_isApart blankTable_isApart_wordTable
      (blankTable_holds_of_isBlank h)

theorem isBlank_of_isWord {c : Char} (h : isWord c = true) : isBlank c = false := by
  rw [← Bool.not_eq_true]
  intro hc
  rw [isWord_of_isBlank hc] at h
  cases h

/-! ### Runs of characters -/

theorem forall_bne_of_not_mem {d : Char} {s : Text} (h : d ∉ s) : ∀ c ∈ s, (c != d) = true := by
  intro c hc
  rw [bne_iff_ne]
  rintro rfl
  exact h hc

/-- A run of characters of a class in front of a character outside of it. -/
theorem takeWhile_run {p : Char → Bool} {run : Text} (h : ∀ c ∈ run, p c = true) {rest : Text}
    (hrest : rest.head?.any p = false) : (run ++ rest).takeWhile p = run := by
  rw [List.takeWhile_append_of_pos h]
  cases rest with
  | nil => simp
  | cons c rest => simp_all

theorem dropWhile_run {p : Char → Bool} {run : Text} (h : ∀ c ∈ run, p c = true) {rest : Text}
    (hrest : rest.head?.any p = false) : (run ++ rest).dropWhile p = rest := by
  rw [List.dropWhile_append_of_pos h]
  cases rest with
  | nil => simp
  | cons c rest => simp_all

theorem takeWhile_bne_of_not_mem {d : Char} {s : Text} (h : d ∉ s) :
    s.takeWhile (· != d) = s := by
  have hall := takeWhile_run (forall_bne_of_not_mem h) (show ([] : Text).head?.any _ = false from rfl)
  rwa [List.append_nil] at hall

/-- What is left of a text behind a run of characters of a class starts with none of them. -/
theorem head?_dropWhile_any (p : Char → Bool) (s : Text) : (s.dropWhile p).head?.any p = false := by
  have hnot := List.head?_dropWhile_not p s
  cases hd : s.dropWhile p with
  | nil => rfl
  | cons d rest =>
    rw [hd] at hnot
    simpa using hnot

/-- A text that starts with a character of a class starts with a longest run of them. -/
theorem exists_run {p : Char → Bool} {c : Char} (hc : p c = true) (s : Text) :
    ∃ run rest, c :: s = run ++ rest ∧ run ≠ [] ∧ (∀ d ∈ run, p d = true) ∧
      rest.head?.any p = false := by
  refine ⟨(c :: s).takeWhile p, (c :: s).dropWhile p, List.takeWhile_append_dropWhile.symm, ?_,
    fun d hd => List.all_eq_true.1 List.all_takeWhile d hd, head?_dropWhile_any p (c :: s)⟩
  rw [List.takeWhile_cons_of_pos hc]
  exact List.cons_ne_nil _ _

/-! ### Words -/

@[simp]
theorem words_nil : words [] = [] := rfl

/-- **A character outside of words separates.** -/
theorem words_append_cons {c : Char} (hc : isWord c = false) (s t : Text) :
    words (s ++ c :: t) = words s ++ words t := by
  rw [words, splitWhere_append_cons (by simp [hc]), List.filter_append]
  rfl

theorem words_cons {c : Char} (hc : isWord c = false) (s : Text) : words (c :: s) = words s :=
  words_append_cons hc [] s

theorem words_eq_singleton {run : Text} (hne : run ≠ []) (h : ∀ c ∈ run, isWord c = true) :
    words run = [run] := by
  have hone : splitWhere (fun c => !isWord c) run = [run] :=
    splitWhere_eq_singleton fun c hc => by simp [h c hc]
  have hfull : (!run.isEmpty) = true := by simpa using hne
  rw [words, hone, List.filter_cons, if_pos hfull, List.filter_nil]

/-- **A run of word characters**, up to the end or to a character outside of words, is the first
word. -/
theorem words_run {run rest : Text} (hne : run ≠ []) (h : ∀ c ∈ run, isWord c = true)
    (hrest : rest.head?.any isWord = false) : words (run ++ rest) = run :: words rest := by
  cases rest with
  | nil => rw [List.append_nil, words_eq_singleton hne h, words_nil]
  | cons c rest =>
    have hc : isWord c = false := by simpa using hrest
    rw [words_append_cons hc, words_eq_singleton hne h, words_cons hc]
    rfl

/-- An exchange of characters that keeps outside of words what is outside of them, and does not touch
the others, leaves the words as they are. -/
theorem words_map {f : Char → Char} (hout : ∀ c, isWord (f c) = isWord c)
    (hin : ∀ c, isWord c = true → f c = c) (s : Text) : words (s.map f) = words s := by
  have hpieces : splitWhere (fun c => !isWord c) (s.map f) = splitWhere (fun c => !isWord c) s := by
    rw [splitWhere_map fun c => by rw [hout c]]
    refine (List.map_congr_left fun piece hpiece => ?_).trans (List.map_id _)
    refine (List.map_congr_left fun c hc => ?_).trans (List.map_id _)
    exact hin c (by simpa using not_picked_of_mem_splitWhere hpiece hc)
  rw [words, hpieces]
  rfl

/-! ### The text in front of a word -/

/-- A character outside of words starts no word. -/
theorem beforeWord_cons {word : Text} (hne : word ≠ []) (hword : ∀ c ∈ word, isWord c = true)
    {c : Char} (hc : isWord c = false) (previous : Option Char) (s : Text) :
    beforeWord word previous (c :: s) = c :: beforeWord word (some c) s := by
  have hstart : startsWord word previous (c :: s) = false := by
    cases word with
    | nil => exact absurd rfl hne
    | cons d word =>
      have hdc : d ≠ c := fun h => by
        have hd := hword d List.mem_cons_self
        rw [h, hc] at hd
        cases hd
      simp [startsWord, List.isPrefixOf, hdc]
  rw [beforeWord, hstart, if_neg Bool.false_ne_true]

/-- Inside a run of word characters no word starts. -/
theorem beforeWord_inside (word : Text) {previous : Option Char}
    (hprevious : previous.any isWord = true) {run : Text} (hrun : ∀ c ∈ run, isWord c = true)
    (rest : Text) :
    ∃ last, beforeWord word previous (run ++ rest) = run ++ beforeWord word last rest := by
  induction run generalizing previous with
  | nil => exact ⟨previous, rfl⟩
  | cons c run ih =>
    have hc : (some c).any isWord = true := hrun c List.mem_cons_self
    obtain ⟨last, hlast⟩ := ih hc fun d hd => hrun d (List.mem_cons_of_mem c hd)
    refine ⟨last, ?_⟩
    have hstart : startsWord word previous (c :: (run ++ rest)) = false := by
      rw [startsWord, hprevious]
      rfl
    rw [List.cons_append, beforeWord, hstart, if_neg Bool.false_ne_true, hlast, List.cons_append]

/-- A whole word at the front of a text. -/
theorem startsWord_iff {word s : Text} {previous : Option Char} :
    startsWord word previous s = true ↔
      previous.any isWord = false ∧ ∃ back, s = word ++ back ∧ back.head?.any isWord = false := by
  simp only [startsWord, Bool.and_eq_true, Bool.not_eq_true', List.isPrefixOf_iff_prefix]
  constructor
  · intro h
    obtain ⟨⟨hprevious, back, rfl⟩, hback⟩ := h
    rw [List.drop_left] at hback
    exact ⟨hprevious, back, rfl, hback⟩
  · intro h
    obtain ⟨hprevious, back, rfl, hback⟩ := h
    rw [List.drop_left]
    exact ⟨⟨hprevious, List.prefix_append word back⟩, hback⟩

/-- A run of word characters starts the word only if it is the word. -/
theorem startsWord_run {word : Text} (hword : ∀ c ∈ word, isWord c = true) {previous : Option Char}
    (hprevious : previous.any isWord = false) {run rest : Text}
    (hrun : ∀ c ∈ run, isWord c = true) (hrest : rest.head?.any isWord = false) :
    startsWord word previous (run ++ rest) = true ↔ run = word := by
  rw [startsWord_iff, and_iff_right hprevious]
  constructor
  · intro h
    obtain ⟨back, hsame, hback⟩ := h
    -- the run and the word are both the longest run of word characters at this place
    have hlongest := takeWhile_run hword hback
    rw [← hsame, takeWhile_run hrun hrest] at hlongest
    exact hlongest
  · intro h
    subst h
    exact ⟨rest, rfl, hrest⟩

/-- A run that is another word is kept. -/
theorem beforeWord_run {word : Text} (hword : ∀ c ∈ word, isWord c = true) {previous : Option Char}
    (hprevious : previous.any isWord = false) {run rest : Text} (hne : run ≠ [])
    (hrun : ∀ c ∈ run, isWord c = true) (hrest : rest.head?.any isWord = false)
    (hother : run ≠ word) :
    ∃ last, beforeWord word previous (run ++ rest) = run ++ beforeWord word last rest := by
  have hstart : startsWord word previous (run ++ rest) = false := by
    rw [← Bool.not_eq_true, startsWord_run hword hprevious hrun hrest]
    exact hother
  cases run with
  | nil => exact absurd rfl hne
  | cons d run =>
    have hd : (some d).any isWord = true := hrun d List.mem_cons_self
    obtain ⟨last, hlast⟩ := beforeWord_inside word hd
      (fun e he => hrun e (List.mem_cons_of_mem d he)) rest
    refine ⟨last, ?_⟩
    rw [List.cons_append] at hstart ⊢
    rw [beforeWord, hstart, if_neg Bool.false_ne_true, hlast, List.cons_append]

/-- **Cutting in front of a word.**  The words of the text in front of a word are the words in front
of it. -/
theorem words_beforeWord {word : Text} (hne : word ≠ []) (hword : ∀ c ∈ word, isWord c = true)
    {previous : Option Char} (hprevious : previous.any isWord = false) (s : Text) :
    words (beforeWord word previous s) = (words s).takeWhile (· != word) := by
  -- the induction goes from one run of word characters to the next
  induction hn : s.length using Nat.strongRecOn generalizing s previous with
  | _ n ih =>
    cases s with
    | nil => rfl
    | cons c s =>
      rw [List.length_cons] at hn
      by_cases hc : isWord c = true
      · obtain ⟨run, rest, hs, hrunne, hrun, hrest⟩ := exists_run hc s
        rw [hs, words_run hrunne hrun hrest]
        by_cases heq : run = word
        · -- the run is the word: nothing is left of it and what follows
          have hstart := (startsWord_run hword hprevious hrun hrest).2 heq
          have hnil : beforeWord word previous (run ++ rest) = [] := by
            rw [← hs] at hstart ⊢
            rw [beforeWord, if_pos hstart]
          rw [hnil, heq, List.takeWhile_cons_of_neg (by simp), words_nil]
        · -- the run is another word, and is kept
          obtain ⟨last, hlast⟩ := beforeWord_run hword hprevious hrunne hrun hrest heq
          rw [hlast, List.takeWhile_cons_of_pos (by simpa using heq)]
          cases rest with
          | nil => rw [beforeWord, words_run hrunne hrun rfl]; rfl
          | cons d rest =>
            have hd : isWord d = false := by simpa using hrest
            have hlen : rest.length < n := by
              have := congrArg List.length hs
              simp only [List.length_cons, List.length_append] at this
              omega
            rw [beforeWord_cons hne hword hd, words_run hrunne hrun (by simpa using hd),
              words_cons hd, words_cons hd,
              ih rest.length hlen (show (some d).any isWord = false from hd) rest rfl]
      · have hc' : isWord c = false := by simpa using hc
        rw [beforeWord_cons hne hword hc', words_cons hc', words_cons hc',
          ih s.length (by omega) (show (some c).any isWord = false from hc') s rfl]

end ContractAudit.Text
