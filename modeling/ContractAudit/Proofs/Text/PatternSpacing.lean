import ContractAudit.Proofs.Text.Spacing
import ContractAudit.Text.Pattern

/-!
# Patterns and spacing

What blanks in front of a text, and other blanks inside it, do to a search.  Both questions are put to
a trial: what is tried at a place when a pattern is followed and something else comes behind it.  So
there is one lemma for each kind of pattern, whatever comes behind.

* `StartsVisibly` -- a trial that fails at a blank, and for which a blank in front is as good as the
  start of the text;
* `SkipsBlanks` -- a trial that may as well be made behind a blank;
* `marginFree_occursIn`, `marginFree_occursIn_textStart` -- blanks in front of a text do not matter for
  patterns that start visibly, or are tied to the start and pass over blanks first;
* `IgnoresSpacing` -- a trial that comes out the same in texts that differ in their spacing alone;
* `spacingFree_occursIn` -- a pattern that starts visibly and ignores spacing occurs in both or in none.
-/

namespace ContractAudit.Text.Pattern

/-! ### Trials that start visibly -/

/-- The trial fails at a blank, and takes a blank in front for the start of the text. -/
structure StartsVisibly (trial : Trial) : Prop where
  not_blank : ∀ {c : Char}, isBlank c = true → ∀ previous s, trial previous (c :: s) = false
  blank_before : ∀ {c : Char}, isBlank c = true → ∀ s, trial (some c) s = trial none s

section Starts

variable {next : Trial}

theorem startsVisibly_one {test : Char → Bool} (h : ∀ c, isBlank c = true → test c = false)
    (next : Trial) : StartsVisibly ((one test).run next) where
  not_blank hc _ _ := by simp [run, h _ hc]
  blank_before _ _ := rfl

/-- A blank is none of some visible characters. -/
theorem contains_of_isBlank {chars : Text} (h : (chars.all fun c => !isBlank c) = true) (c : Char)
    (hc : isBlank c = true) : chars.contains c = false := by
  rw [← Bool.not_eq_true, List.contains_iff_mem]
  intro hmem
  have hvisible := List.all_eq_true.1 h c hmem
  simp [hc] at hvisible

theorem startsVisibly_among {chars : String} (h : (chars.toList.all fun c => !isBlank c) = true)
    (next : Trial) : StartsVisibly ((among chars).run next) :=
  startsVisibly_one (contains_of_isBlank h) next

theorem startsVisibly_lit {s : String} (h : (s.toList.head?.any fun c => !isBlank c) = true)
    (next : Trial) : StartsVisibly ((lit s).run next) := by
  rw [lit]
  cases hs : s.toList with
  | nil =>
    rw [hs] at h
    cases h
  | cons d rest =>
    have hd : isBlank d = false := by simpa [hs] using h
    refine startsVisibly_one (fun c hc => ?_) _
    rw [beq_eq_false_iff_ne]
    rintro rfl
    rw [hc] at hd
    cases hd

theorem startsVisibly_or {p q : Pattern} (hp : StartsVisibly (p.run next))
    (hq : StartsVisibly (q.run next)) : StartsVisibly ((p ||| q).run next) where
  not_blank hc previous s := by
    show (p.run next previous _ || q.run next previous _) = false
    rw [hp.not_blank hc, hq.not_blank hc]
    rfl
  blank_before hc s := by
    show (p.run next _ s || q.run next _ s) = (p.run next none s || q.run next none s)
    rw [hp.blank_before hc, hq.blank_before hc]

theorem startsVisibly_oneOf {strings : List String}
    (h : (strings.all fun s => s.toList.head?.any fun c => !isBlank c) = true) (next : Trial) :
    StartsVisibly ((oneOf strings).run next) := by
  induction strings with
  | nil => exact startsVisibly_one (fun _ _ => rfl) next
  | cons s rest ih =>
    rw [List.all_cons, Bool.and_eq_true] at h
    cases rest with
    | nil => exact startsVisibly_lit h.1 next
    | cons other rest => exact startsVisibly_or (startsVisibly_lit h.1 next) (ih h.2)

theorem startsVisibly_someWord (next : Trial) : StartsVisibly (someWord.run next) :=
  startsVisibly_one (fun _ hc => isWord_of_isBlank hc) _

theorem startsVisibly_wordEdge (h : StartsVisibly next) : StartsVisibly (wordEdge.run next) where
  not_blank hc previous s := by simp [run, h.not_blank hc]
  blank_before hc s := by
    show (_ != _ && next _ s) = (_ != _ && next none s)
    rw [h.blank_before hc, Option.any_some, isWord_of_isBlank hc]
    rfl

theorem startsVisibly_notAfter {test : Char → Bool} (htest : ∀ c, isBlank c = true → test c = false)
    (h : StartsVisibly next) : StartsVisibly ((notAfter test).run next) where
  not_blank hc previous s := by simp [run, h.not_blank hc]
  blank_before hc s := by simp [run, h.blank_before hc, htest _ hc]

theorem startsVisibly_maybe {p : Pattern} (hp : StartsVisibly (p.run next))
    (h : StartsVisibly next) : StartsVisibly ((maybe p).run next) :=
  startsVisibly_or hp h

/-- Blanks in front are passed over by the search. -/
theorem occursFrom_blank {p : Pattern} (hp : StartsVisibly p.startsAt) {c : Char}
    (hc : isBlank c = true) (previous : Option Char) (s : Text) :
    p.occursFrom previous (c :: s) = p.occursFrom none s := by
  rw [occursFrom, hp.not_blank hc, Bool.false_or]
  cases s with
  | nil => exact hp.blank_before hc []
  | cons d s => rw [occursFrom, occursFrom, hp.blank_before hc]

theorem occursFrom_gap {p : Pattern} (hp : StartsVisibly p.startsAt) {b : Text} (hb : IsGap b)
    (previous : Option Char) (s : Text) : p.occursFrom previous (b ++ s) = p.occursFrom none s := by
  obtain ⟨c, rest, rfl, hc⟩ := hb.exists_cons
  have hfree : MarginFree (p.occursFrom none) := fun _ hd s => occursFrom_blank hp hd none s
  rw [List.cons_append, occursFrom_blank hp hc,
    hfree.blanks_append fun d hd => hb.2 d (List.mem_cons_of_mem c hd)]

/-- **Blanks in front of a text** do not matter for a pattern that starts visibly. -/
theorem marginFree_occursIn {p : Pattern} (hp : StartsVisibly p.startsAt) : MarginFree p.occursIn :=
  fun _ hc s => occursFrom_blank hp hc none s

end Starts

/-! ### Trials that skip blanks -/

/-- A trial that succeeds in front of a blank succeeds behind it as well, and takes a blank in front
for the start of the text. -/
structure SkipsBlanks (trial : Trial) : Prop where
  skip : ∀ {c : Char}, isBlank c = true → ∀ previous s, trial previous (c :: s) = true →
    trial none s = true
  blank_before : ∀ {c : Char}, isBlank c = true → ∀ s, trial (some c) s = trial none s

theorem StartsVisibly.skipsBlanks {trial : Trial} (h : StartsVisibly trial) : SkipsBlanks trial where
  skip hc previous s htrue := by
    rw [h.not_blank hc] at htrue
    cases htrue
  blank_before := h.blank_before

theorem skipsBlanks_or {p q : Pattern} {next : Trial} (hp : SkipsBlanks (p.run next))
    (hq : SkipsBlanks (q.run next)) : SkipsBlanks ((p ||| q).run next) where
  skip hc previous s htrue := by
    have hor : (p.run next previous _ || q.run next previous _) = true := htrue
    show (p.run next none s || q.run next none s) = true
    rw [Bool.or_eq_true] at hor ⊢
    exact hor.imp (hp.skip hc previous s) (hq.skip hc previous s)
  blank_before hc s := by
    show (p.run next _ s || q.run next _ s) = (p.run next none s || q.run next none s)
    rw [hp.blank_before hc, hq.blank_before hc]

theorem runMany_of_next {test : Char → Bool} {next : Trial} {previous : Option Char} {s : Text}
    (h : next previous s = true) : runMany test next previous s = true := by
  cases s with
  | nil => exact h
  | cons c s => rw [runMany, h, Bool.true_or]

theorem blanks_run_some {next : Trial} (h : SkipsBlanks next) {c : Char} (hc : isBlank c = true)
    (s : Text) : blanks.run next (some c) s = blanks.run next none s := by
  show runMany isBlank next (some c) s = runMany isBlank next none s
  cases s with
  | nil => exact h.blank_before hc []
  | cons d s => rw [runMany, runMany, h.blank_before hc]

/-- Blanks in front of what skips them: all of them may be left out. -/
theorem blanks_run_cons {next : Trial} (h : SkipsBlanks next) {c : Char} (hc : isBlank c = true)
    (previous : Option Char) (s : Text) :
    blanks.run next previous (c :: s) = blanks.run next none s := by
  have hmany : blanks.run next previous (c :: s)
      = (next previous (c :: s) || blanks.run next none s) := by
    rw [← blanks_run_some h hc]
    show runMany isBlank next previous (c :: s) = _
    rw [runMany, hc, Bool.true_and]
    rfl
  rw [hmany]
  cases hhere : next previous (c :: s) with
  | false => exact Bool.false_or _
  | true => exact (runMany_of_next (h.skip hc previous s hhere)).symm

theorem skipsBlanks_blanks {next : Trial} (h : SkipsBlanks next) :
    SkipsBlanks (blanks.run next) where
  skip hc previous s htrue := by rwa [blanks_run_cons h hc] at htrue
  blank_before hc s := blanks_run_some h hc s

/-- A pattern that is tied to the start of the text is tried there and nowhere else. -/
theorem occursIn_textStart {p : Pattern} {trial : Trial}
    (h : ∀ previous s, p.startsAt previous s = (previous.isNone && trial previous s)) (s : Text) :
    p.occursIn s = trial none s := by
  have hlater : ∀ (s : Text) (c : Char), p.occursFrom (some c) s = false := by
    intro s
    induction s with
    | nil =>
      intro c
      rw [occursFrom, h]
      rfl
    | cons d s ih =>
      intro c
      rw [occursFrom, h, ih]
      rfl
  cases s with
  | nil => exact h none []
  | cons c s =>
    rw [occursIn, occursFrom, h, hlater, Bool.or_false]
    rfl

/-- **Blanks in front of a text** do not matter for a pattern that is tied to the start and passes over
blanks first. -/
theorem marginFree_occursIn_textStart {p : Pattern} {next : Trial}
    (h : ∀ previous s, p.startsAt previous s = (previous.isNone && blanks.run next previous s))
    (hnext : SkipsBlanks next) : MarginFree p.occursIn := by
  intro c hc s
  rw [occursIn_textStart h, occursIn_textStart h, blanks_run_cons hnext hc]

/-! ### Trials that ignore spacing -/

/-- The same character in front, or blanks or nothing in front of both. -/
def SameBefore (previous previous' : Option Char) : Prop :=
  previous = previous' ∨ previous.all isBlank = true ∧ previous'.all isBlank = true

theorem SameBefore.any_isWord {previous previous' : Option Char} (h : SameBefore previous previous') :
    previous.any isWord = previous'.any isWord := by
  have hblank : ∀ {o : Option Char}, o.all isBlank = true → o.any isWord = false := by
    intro o ho
    cases o with
    | none => rfl
    | some c => exact isWord_of_isBlank ho
  rcases h with rfl | ⟨hprevious, hprevious'⟩
  · rfl
  · rw [hblank hprevious, hblank hprevious']

/-- The trial comes out the same in texts that differ in their spacing alone. -/
def IgnoresSpacing (trial : Trial) : Prop :=
  ∀ {previous previous' : Option Char} {s t : Text}, SameBefore previous previous' → Respaced s t →
    trial previous s = trial previous' t

section Spacing

variable {next : Trial}

theorem ignoresSpacing_true : IgnoresSpacing fun _ _ => true :=
  fun _ _ => rfl

theorem ignoresSpacing_one {test : Char → Bool} (htest : ∀ c, isBlank c = true → test c = false)
    (h : IgnoresSpacing next) : IgnoresSpacing ((one test).run next) := by
  intro previous previous' s t _ hst
  cases hst with
  | nil => rfl
  | @visible c s t _ hst =>
    show (test c && next (some c) s) = (test c && next (some c) t)
    rw [h (.inl rfl) hst]
  | gap hb hb' _ =>
    obtain ⟨c, rest, rfl, hc⟩ := hb.exists_cons
    obtain ⟨c', rest', rfl, hc'⟩ := hb'.exists_cons
    simp [run, htest c hc, htest c' hc']

theorem ignoresSpacing_among {chars : String} (h : (chars.toList.all fun c => !isBlank c) = true)
    (hnext : IgnoresSpacing next) : IgnoresSpacing ((among chars).run next) :=
  ignoresSpacing_one (contains_of_isBlank h) hnext

theorem ignoresSpacing_lit {string : String}
    (hstring : (string.toList.all fun c => !isBlank c) = true) (h : IgnoresSpacing next) :
    IgnoresSpacing ((lit string).run next) := by
  rw [lit]
  generalize string.toList = chars at hstring
  induction chars with
  | nil => exact h
  | cons d chars ih =>
    rw [List.all_cons, Bool.and_eq_true, Bool.not_eq_true'] at hstring
    refine ignoresSpacing_one (fun c hc => ?_) (ih hstring.2)
    rw [beq_eq_false_iff_ne]
    rintro rfl
    rw [hc] at hstring
    cases hstring.1

theorem ignoresSpacing_or {p q : Pattern} (hp : IgnoresSpacing (p.run next))
    (hq : IgnoresSpacing (q.run next)) : IgnoresSpacing ((p ||| q).run next) := by
  intro previous previous' s t hbefore hst
  show (p.run next previous s || q.run next previous s)
    = (p.run next previous' t || q.run next previous' t)
  rw [hp hbefore hst, hq hbefore hst]

theorem ignoresSpacing_wordChars (h : IgnoresSpacing next) : IgnoresSpacing (wordChars.run next) := by
  intro previous previous' s t hbefore hst
  show runMany isWord next previous s = runMany isWord next previous' t
  induction hst generalizing previous previous' with
  | nil => exact h hbefore .nil
  | @visible c s t hc hst ih =>
    rw [runMany, runMany, h hbefore (.visible hc hst), ih (.inl rfl)]
  | gap hb hb' hst _ =>
    have hhere := h hbefore (.gap hb hb' hst)
    obtain ⟨c, rest, rfl, hc⟩ := hb.exists_cons
    obtain ⟨c', rest', rfl, hc'⟩ := hb'.exists_cons
    rw [List.cons_append, List.cons_append] at hhere ⊢
    rw [runMany, runMany, isWord_of_isBlank hc, isWord_of_isBlank hc', hhere, Bool.false_and,
      Bool.false_and]

/-- Any number of blanks, in front of what starts visibly: the whole gap is passed over. -/
theorem ignoresSpacing_blanks (hvisible : StartsVisibly next) (h : IgnoresSpacing next) :
    IgnoresSpacing (blanks.run next) := by
  have hgap : ∀ {b : Text}, IsGap b → ∀ previous s,
      blanks.run next previous (b ++ s) = blanks.run next none s := by
    intro b hb previous s
    obtain ⟨c, rest, rfl, hc⟩ := hb.exists_cons
    have hfree : MarginFree (blanks.run next none) :=
      fun _ hd s => blanks_run_cons hvisible.skipsBlanks hd none s
    rw [List.cons_append, blanks_run_cons hvisible.skipsBlanks hc,
      hfree.blanks_append fun d hd => hb.2 d (List.mem_cons_of_mem c hd)]
  intro previous previous' s t hbefore hst
  induction hst generalizing previous previous' with
  | nil => exact h hbefore .nil
  | @visible c s t hc hst _ =>
    show runMany isBlank next previous (c :: s) = runMany isBlank next previous' (c :: t)
    rw [runMany, runMany, hc, h hbefore (.visible hc hst), Bool.false_and, Bool.false_and]
  | gap hb hb' _ ih =>
    rw [hgap hb, hgap hb']
    exact ih (.inl rfl)

theorem ignoresSpacing_wordEdge (h : IgnoresSpacing next) : IgnoresSpacing (wordEdge.run next) := by
  intro previous previous' s t hbefore hst
  show (previous.any isWord != s.head?.any isWord && next previous s)
    = (previous'.any isWord != t.head?.any isWord && next previous' t)
  rw [hbefore.any_isWord, hst.head?_any fun _ hc => isWord_of_isBlank hc, h hbefore hst]

/-- **Spacing does not matter for a search** for a pattern that starts visibly and ignores spacing. -/
theorem spacingFree_occursIn {p : Pattern} (hvisible : StartsVisibly p.startsAt)
    (h : IgnoresSpacing p.startsAt) : SpacingFree p.occursIn := by
  have hfrom : IgnoresSpacing p.occursFrom := by
    intro previous previous' s t hbefore hst
    induction hst generalizing previous previous' with
    | nil => exact h hbefore .nil
    | @visible c s t hc hst ih =>
      rw [occursFrom, occursFrom, h hbefore (.visible hc hst), ih (.inl rfl)]
    | gap hb hb' _ ih =>
      rw [occursFrom_gap hvisible hb, occursFrom_gap hvisible hb']
      exact ih (.inl rfl)
  exact ⟨marginFree_occursIn hvisible, fun hst => hfrom (.inl rfl) hst⟩

end Spacing

end ContractAudit.Text.Pattern
