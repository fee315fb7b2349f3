import ContractAudit.Proofs.Text.Words
import Mathlib.Data.List.Forall2

/-!
# Spacing

Two texts differ in their spacing alone when they have the same visible characters in the same order,
and blanks between the same of them, though perhaps not the same blanks and not as many.  A line end
of either kind is such a gap, and so is a line end with the indentation behind it.

* `Respaced` -- texts that differ in their spacing alone;
* `Respaced.dropWhile`, `Respaced.takeWhile` -- cutting such texts at a visible character;
* `respaced_dropReturns` -- line ends of both kinds;
* `respaced_flatMap` -- pieces with blanks in front of each;
* `Respaced.words_eq` -- the words are the same;
* `words_eq_flatMap_lines` -- the words of a source are those of its lines;
* `MarginFree`, `SpacingFree` -- what does not depend on blanks in front, or on any spacing; the latter
  does not depend on how the lines of a source are indented or ended (`SpacingFree.lines_eq`).
-/

namespace ContractAudit.Text

/-- At least one blank, and nothing but blanks. -/
def IsGap (b : Text) : Prop :=
  b ≠ [] ∧ ∀ c ∈ b, isBlank c = true

/-- The texts differ in their spacing alone. -/
inductive Respaced : Text → Text → Prop
  | nil : Respaced [] []
  | visible {c : Char} {s t : Text} (hc : isBlank c = false) (h : Respaced s t) :
      Respaced (c :: s) (c :: t)
  | gap {b b' s t : Text} (hb : IsGap b) (hb' : IsGap b') (h : Respaced s t) :
      Respaced (b ++ s) (b' ++ t)

theorem IsGap.exists_cons {b : Text} (h : IsGap b) : ∃ c rest, b = c :: rest ∧ isBlank c = true := by
  obtain ⟨c, rest, rfl⟩ := List.exists_cons_of_ne_nil h.1
  exact ⟨c, rest, rfl, h.2 c List.mem_cons_self⟩

theorem isGap_cons {c : Char} (hc : isBlank c = true) {b : Text} (hb : ∀ d ∈ b, isBlank d = true) :
    IsGap (c :: b) :=
  ⟨List.cons_ne_nil c b, List.forall_mem_cons.2 ⟨hc, hb⟩⟩

/-! ### Putting texts together -/

theorem Respaced.cons {s t : Text} (h : Respaced s t) (c : Char) : Respaced (c :: s) (c :: t) := by
  by_cases hc : isBlank c = true
  · have hgap : IsGap [c] := isGap_cons hc (List.forall_mem_nil _)
    exact .gap hgap hgap h
  · exact .visible (by simpa using hc) h

/-- What stands in front of both does not matter. -/
theorem Respaced.append_left {s t : Text} (h : Respaced s t) (front : Text) :
    Respaced (front ++ s) (front ++ t) := by
  induction front with
  | nil => exact h
  | cons c front ih => exact ih.cons c

/-- A carriage return in front of a line feed belongs to the gap. -/
theorem respaced_dropReturns (s : Text) : Respaced s (dropReturns s) := by
  have hfeed : IsGap ['\n'] := isGap_cons (by decide) (List.forall_mem_nil _)
  have hreturn : IsGap ['\r', '\n'] := isGap_cons (by decide) hfeed.2
  fun_induction dropReturns s with
  | case1 => exact .nil
  | case2 s ih => exact .gap hreturn hfeed ih
  | case3 c s _ ih => exact ih.cons c

/-- A text behind its leading blanks. -/
theorem exists_blanks_append (s : Text) :
    ∃ b, (∀ c ∈ b, isBlank c = true) ∧ s = b ++ s.dropWhile isBlank :=
  ⟨s.takeWhile isBlank, fun c hc => List.all_eq_true.1 List.all_takeWhile c hc,
    List.takeWhile_append_dropWhile.symm⟩

/-- Pieces that agree behind their leading blanks, with a blank in front of each. -/
theorem respaced_flatMap {d : Char} (hd : isBlank d = true) {ls ms : List Text}
    (h : List.Forall₂ (fun l m => l.dropWhile isBlank = m.dropWhile isBlank) ls ms) :
    Respaced (ls.flatMap (d :: ·)) (ms.flatMap (d :: ·)) := by
  induction h with
  | nil => exact .nil
  | @cons l m ls ms hsame _ ih =>
    obtain ⟨b, hb, hl⟩ := exists_blanks_append l
    obtain ⟨b', hb', hm⟩ := exists_blanks_append m
    rw [← hsame] at hm
    -- the blanks in front of a piece belong to the gap, and what follows them is the same
    have hcut : ∀ {piece b : Text} (rest : Text), piece = b ++ l.dropWhile isBlank →
        d :: piece ++ rest = (d :: b) ++ (l.dropWhile isBlank ++ rest) := by
      rintro piece b rest rfl
      simp
    rw [List.flatMap_cons, List.flatMap_cons, hcut _ hl, hcut _ hm]
    exact .gap (isGap_cons hd hb) (isGap_cons hd hb') (ih.append_left _)

/-! ### Cutting texts -/

section Cuts

variable {p : Char → Bool} {s t : Text}

/-- Dropping characters up to a visible one. -/
theorem Respaced.dropWhile (h : Respaced s t) (hp : ∀ c, isBlank c = true → p c = true) :
    Respaced (s.dropWhile p) (t.dropWhile p) := by
  induction h with
  | nil => exact .nil
  | @visible c s t hc h ih =>
    by_cases hpc : p c = true
    · rw [List.dropWhile_cons_of_pos hpc, List.dropWhile_cons_of_pos hpc]
      exact ih
    · rw [List.dropWhile_cons_of_neg hpc, List.dropWhile_cons_of_neg hpc]
      exact .visible hc h
  | gap hb hb' _ ih =>
    rw [List.dropWhile_append_of_pos fun c hc => hp c (hb.2 c hc),
      List.dropWhile_append_of_pos fun c hc => hp c (hb'.2 c hc)]
    exact ih

/-- Taking characters up to a visible one. -/
theorem Respaced.takeWhile (h : Respaced s t) (hp : ∀ c, isBlank c = true → p c = true) :
    Respaced (s.takeWhile p) (t.takeWhile p) := by
  induction h with
  | nil => exact .nil
  | @visible c s t hc _ ih =>
    by_cases hpc : p c = true
    · rw [List.takeWhile_cons_of_pos hpc, List.takeWhile_cons_of_pos hpc]
      exact .visible hc ih
    · rw [List.takeWhile_cons_of_neg hpc, List.takeWhile_cons_of_neg hpc]
      exact .nil
  | gap hb hb' _ ih =>
    rw [List.takeWhile_append_of_pos fun c hc => hp c (hb.2 c hc),
      List.takeWhile_append_of_pos fun c hc => hp c (hb'.2 c hc)]
    exact .gap hb hb' ih

/-- A run of visible characters is the same in both. -/
theorem Respaced.takeWhile_eq (h : Respaced s t) (hp : ∀ c, isBlank c = true → p c = false) :
    s.takeWhile p = t.takeWhile p := by
  induction h with
  | nil => rfl
  | @visible c s t _ _ ih => rw [List.takeWhile_cons, List.takeWhile_cons, ih]
  | gap hb hb' _ _ =>
    obtain ⟨c, rest, rfl, hc⟩ := hb.exists_cons
    obtain ⟨c', rest', rfl, hc'⟩ := hb'.exists_cons
    rw [List.cons_append, List.cons_append, List.takeWhile_cons_of_neg (by simp [hp c hc]),
      List.takeWhile_cons_of_neg (by simp [hp c' hc'])]

/-- What follows a run of visible characters. -/
theorem Respaced.dropWhile_run (h : Respaced s t) (hp : ∀ c, isBlank c = true → p c = false) :
    Respaced (s.dropWhile p) (t.dropWhile p) := by
  induction h with
  | nil => exact .nil
  | @visible c s t hc h ih =>
    by_cases hpc : p c = true
    · rw [List.dropWhile_cons_of_pos hpc, List.dropWhile_cons_of_pos hpc]
      exact ih
    · rw [List.dropWhile_cons_of_neg hpc, List.dropWhile_cons_of_neg hpc]
      exact .visible hc h
  | gap hb hb' h _ =>
    have hgap := Respaced.gap hb hb' h
    obtain ⟨c, rest, rfl, hc⟩ := hb.exists_cons
    obtain ⟨c', rest', rfl, hc'⟩ := hb'.exists_cons
    rw [List.cons_append, List.cons_append, List.dropWhile_cons_of_neg (by simp [hp c hc]),
      List.dropWhile_cons_of_neg (by simp [hp c' hc'])]
    exact hgap

/-- A test that does not tell blanks apart comes out the same for the first characters. -/
theorem Respaced.head?_any (h : Respaced s t) {value : Bool}
    (hp : ∀ c, isBlank c = true → p c = value) : s.head?.any p = t.head?.any p := by
  cases h with
  | nil => rfl
  | visible => rfl
  | gap hb hb' _ =>
    obtain ⟨c, rest, rfl, hc⟩ := hb.exists_cons
    obtain ⟨c', rest', rfl, hc'⟩ := hb'.exists_cons
    show p c = p c'
    rw [hp c hc, hp c' hc']

/-- A visible text in front of both. -/
theorem Respaced.after? (h : Respaced s t) {lead : Text} (hlead : ∀ c ∈ lead, isBlank c = false) :
    Option.Rel Respaced (after? lead s) (after? lead t) := by
  induction lead generalizing s t with
  | nil => exact .some h
  | cons d lead ih =>
    have hd : isBlank d = false := hlead d List.mem_cons_self
    cases h with
    | nil => exact .none
    | @visible c s t _ h =>
      rw [Text.after?, Text.after?]
      split
      · exact ih h fun e he => hlead e (List.mem_cons_of_mem d he)
      · exact .none
    | gap hb hb' _ =>
      -- neither starts with the visible character
      obtain ⟨c, rest, rfl, hc⟩ := hb.exists_cons
      obtain ⟨c', rest', rfl, hc'⟩ := hb'.exists_cons
      have hne : d ≠ c := by
        rintro rfl
        simp [hc] at hd
      have hne' : d ≠ c' := by
        rintro rfl
        simp [hc'] at hd
      rw [List.cons_append, List.cons_append, Text.after?, Text.after?, if_neg hne, if_neg hne']
      exact .none

end Cuts

/-! ### Words -/

theorem words_blanks_append {b : Text} (hb : ∀ c ∈ b, isBlank c = true) (s : Text) :
    words (b ++ s) = words s := by
  induction b with
  | nil => rfl
  | cons c b ih =>
    rw [List.cons_append, words_cons (isWord_of_isBlank (hb c List.mem_cons_self)),
      ih fun d hd => hb d (List.mem_cons_of_mem c hd)]

/-- **Spacing does not matter for words.** -/
theorem Respaced.words_eq {s t : Text} (h : Respaced s t) : words s = words t := by
  -- the induction goes on inside a word, of which `run` has been read
  have hrun : ∀ run : Text, words (run ++ s) = words (run ++ t) := by
    induction h with
    | nil => exact fun _ => rfl
    | @visible c s t _ _ ih =>
      intro run
      by_cases hc : isWord c = true
      · have hnext := ih (run ++ [c])
        simpa using hnext
      · have hc' : isWord c = false := by simpa using hc
        rw [words_append_cons hc', words_append_cons hc']
        exact congrArg (words run ++ ·) (ih [])
    | @gap b b' s t hb hb' _ ih =>
      have hcut : ∀ (run b s : Text), IsGap b → words (run ++ (b ++ s)) = words run ++ words s := by
        intro run b s hb
        obtain ⟨c, rest, rfl, hc⟩ := hb.exists_cons
        rw [List.cons_append, words_append_cons (isWord_of_isBlank hc),
          words_blanks_append fun d hd => hb.2 d (List.mem_cons_of_mem c hd)]
      intro run
      rw [hcut run b s hb, hcut run b' t hb']
      exact congrArg (words run ++ ·) (ih [])
  exact hrun []

theorem words_joinWith {d : Char} (hd : isWord d = false) (pieces : List Text) :
    words (joinWith d pieces) = pieces.flatMap words := by
  induction pieces with
  | nil => rfl
  | cons piece pieces ih =>
    cases pieces with
    | nil => simp [joinWith]
    | cons next pieces =>
      rw [joinWith, words_append_cons hd, ih]
      · rfl
      · exact List.cons_ne_nil _ _

/-- Consecutive lines as one text are the lines with a line feed between them. -/
theorem unlines_lines (s : Text) : unlines (lines s) = dropReturns s :=
  joinWith_splitWhere '\n' (dropReturns s)

theorem words_unlines (ls : List Text) : words (unlines ls) = ls.flatMap words :=
  words_joinWith (by decide) ls

/-- The words of a source are those of its lines. -/
theorem words_eq_flatMap_lines (s : Text) : words s = (lines s).flatMap words := by
  rw [(respaced_dropReturns s).words_eq, ← unlines_lines, words_unlines]

/-! ### What does not depend on spacing -/

/-- The answer does not depend on the blanks in front of the text. -/
def MarginFree {β : Type} (ask : Text → β) : Prop :=
  ∀ c, isBlank c = true → ∀ s, ask (c :: s) = ask s

/-- The answer does not depend on the blanks in front of the text, nor on the spacing in it. -/
structure SpacingFree {β : Type} (ask : Text → β) : Prop where
  margin : MarginFree ask
  respaced : ∀ {s t : Text}, Respaced s t → ask s = ask t

section Free

variable {β : Type} {ask : Text → β}

theorem MarginFree.blanks_append (h : MarginFree ask) {b : Text} (hb : ∀ c ∈ b, isBlank c = true)
    (s : Text) : ask (b ++ s) = ask s := by
  induction b with
  | nil => rfl
  | cons c b ih =>
    rw [List.cons_append, h c (hb c List.mem_cons_self),
      ih fun d hd => hb d (List.mem_cons_of_mem c hd)]

theorem MarginFree.dropWhile_eq (h : MarginFree ask) (s : Text) :
    ask (s.dropWhile isBlank) = ask s := by
  obtain ⟨b, hb, hs⟩ := exists_blanks_append s
  exact (h.blanks_append hb _).symm.trans (congrArg ask hs.symm)

/-- Texts that agree behind their leading blanks give the same answer. -/
theorem MarginFree.eq_of_dropWhile_eq (h : MarginFree ask) {s t : Text}
    (hst : s.dropWhile isBlank = t.dropWhile isBlank) : ask s = ask t := by
  rw [← h.dropWhile_eq s, hst, h.dropWhile_eq]

theorem marginFree_dropWhile : MarginFree (List.dropWhile isBlank) :=
  fun _ hc _ => List.dropWhile_cons_of_pos hc

theorem spacingFree_words : SpacingFree words :=
  ⟨fun _ hc s => words_cons (isWord_of_isBlank hc) s, fun h => h.words_eq⟩

/-- Lines with line feeds between them, behind one more line feed. -/
theorem cons_unlines (line : Text) (ls : List Text) :
    '\n' :: unlines (line :: ls) = (line :: ls).flatMap ('\n' :: ·) := by
  induction ls generalizing line with
  | nil => simp [unlines, joinWith]
  | cons next ls ih =>
    have hjoin : unlines (line :: next :: ls) = line ++ '\n' :: unlines (next :: ls) := rfl
    rw [hjoin, ih next]
    rfl

/-- Lines that agree behind their leading blanks give the same answer, taken together. -/
theorem SpacingFree.unlines_eq (h : SpacingFree ask) {ls ms : List Text}
    (hlines : List.Forall₂ (fun l m => l.dropWhile isBlank = m.dropWhile isBlank) ls ms) :
    ask (unlines ls) = ask (unlines ms) := by
  have hfeed : isBlank '\n' = true := by decide
  have hspaced := h.respaced (respaced_flatMap hfeed hlines)
  cases hlines with
  | nil => rfl
  | cons _ _ =>
    rw [← cons_unlines, ← cons_unlines, h.margin _ hfeed, h.margin _ hfeed] at hspaced
    exact hspaced

/-- So do sources whose lines agree behind their leading blanks, whatever ends the lines. -/
theorem SpacingFree.lines_eq (h : SpacingFree ask) {s t : Text}
    (hlines : List.Forall₂ (fun l m => l.dropWhile isBlank = m.dropWhile isBlank) (lines s) (lines t)) :
    ask s = ask t := by
  rw [h.respaced (respaced_dropReturns s), h.respaced (respaced_dropReturns t), ← unlines_lines,
    ← unlines_lines]
  exact h.unlines_eq hlines

end Free

end ContractAudit.Text
