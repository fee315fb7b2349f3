import ContractAudit.Proofs.Text.WholeWord

/-!
# Searches, place by place

A pattern is looked for at every place of a text.  Here the search and the steps of a pattern are said by
cuts of the text alone.

* `occursIn_iff` -- a pattern occurs in a text if the text can be cut where it can be followed;
* `run_many_iff`, `run_among_iff` -- a run of characters, and one of several characters;
* `occursIn_lit_iff` -- a string occurs where it stands.

A class of characters cuts a text into longest runs, of which the words are the best known:

* `runsOf`, `mem_runsOf_iff` -- the longest runs of a class, by a computation and by description.
-/

namespace ContractAudit.Text

/-! ### Longest runs -/

/-- The longest runs of characters that pass the test, in order. -/
def runsOf (test : Char → Bool) (s : Text) : List Text :=
  (splitWhere (fun c => !test c) s).filter fun run => !run.isEmpty

/-- The text has the run, all of it passes the test, and neither the character in front of it nor the one
behind it does. -/
def IsRun (test : Char → Bool) (s run : Text) : Prop :=
  ∃ front back, s = front ++ (run ++ back) ∧ run ≠ [] ∧ (∀ c ∈ run, test c = true) ∧
    front.getLast?.any test = false ∧ back.head?.any test = false

/-- Where the pieces of a text stand: the first one at its front, the others behind a character that cuts,
and each of them in front of one or at the end. -/
theorem places_splitWhere (test : Char → Bool) (s : Text) :
    (∀ piece ∈ (splitWhere (fun c => !test c) s).head?,
      ∃ back, s = piece ++ back ∧ back.head?.any test = false) ∧
    ∀ piece ∈ (splitWhere (fun c => !test c) s).tail,
      ∃ front d back, s = front ++ d :: (piece ++ back) ∧ test d = false ∧
        back.head?.any test = false := by
  refine splitWhere_induction (motive := fun s pieces =>
    (∀ piece ∈ pieces.head?, ∃ back, s = piece ++ back ∧ back.head?.any test = false) ∧
    ∀ piece ∈ pieces.tail, ∃ front d back, s = front ++ d :: (piece ++ back) ∧ test d = false ∧
      back.head?.any test = false) ?_ ?_ ?_ s
  · refine ⟨?_, by simp⟩
    intro piece hpiece
    obtain rfl : [] = piece := by simpa using hpiece
    exact ⟨[], rfl, rfl⟩
  · intro c s first others hc ih
    have hcut : test c = false := by simpa using hc
    refine ⟨?_, ?_⟩
    · intro piece hpiece
      obtain rfl : [] = piece := by simpa using hpiece
      exact ⟨c :: s, rfl, hcut⟩
    · intro piece hpiece
      rcases List.mem_cons.1 hpiece with rfl | hlater
      · -- the first piece of the rest is now behind the cut
        obtain ⟨back, rfl, hback⟩ := ih.1 piece rfl
        exact ⟨[], c, back, rfl, hcut, hback⟩
      · obtain ⟨front, d, back, rfl, hd, hback⟩ := ih.2 piece hlater
        exact ⟨c :: front, d, back, rfl, hd, hback⟩
  · intro c s first others _ ih
    refine ⟨?_, ?_⟩
    · intro piece hpiece
      obtain rfl : c :: first = piece := by simpa using hpiece
      obtain ⟨back, rfl, hback⟩ := ih.1 first rfl
      exact ⟨back, rfl, hback⟩
    · intro piece hpiece
      obtain ⟨front, d, back, rfl, hd, hback⟩ := ih.2 piece hpiece
      exact ⟨c :: front, d, back, rfl, hd, hback⟩

/-- A run in front of a character that cuts, or at the end, is the first piece. -/
theorem mem_splitWhere_run {test : Char → Bool} {run back : Text} (hrun : ∀ c ∈ run, test c = true)
    (hback : back.head?.any test = false) : run ∈ splitWhere (fun c => !test c) (run ++ back) := by
  have hone : splitWhere (fun c => !test c) run = [run] :=
    splitWhere_eq_singleton fun c hc => by simp [hrun c hc]
  cases back with
  | nil =>
    rw [List.append_nil, hone]
    exact List.mem_singleton_self run
  | cons d back =>
    have hd : test d = false := by simpa using hback
    rw [splitWhere_append_cons (by simp [hd]), hone]
    exact List.mem_cons_self

/-- **The runs that are computed** are the longest runs of the text. -/
theorem mem_runsOf_iff {test : Char → Bool} {s run : Text} :
    run ∈ runsOf test s ↔ IsRun test s run := by
  rw [runsOf, List.mem_filter]
  constructor
  · intro h
    obtain ⟨hmem, hfull⟩ := h
    have hne : run ≠ [] := by simpa using hfull
    have hrun : ∀ c ∈ run, test c = true := by
      intro c hc
      simpa using not_picked_of_mem_splitWhere hmem hc
    obtain ⟨first, others, hs⟩ :=
      List.exists_cons_of_ne_nil (splitWhere_ne_nil (fun c => !test c) s)
    obtain ⟨hfirst, hothers⟩ := places_splitWhere test s
    rw [hs] at hmem hfirst hothers
    rcases List.mem_cons.1 hmem with rfl | hlater
    · obtain ⟨back, hcut, hback⟩ := hfirst run rfl
      exact ⟨[], back, hcut, hne, hrun, rfl, hback⟩
    · obtain ⟨front, d, back, hcut, hd, hback⟩ := hothers run hlater
      refine ⟨front ++ [d], back, ?_, hne, hrun, ?_, hback⟩
      · rw [hcut, List.append_assoc]
        rfl
      · rw [List.getLast?_concat]
        exact hd
  · intro h
    obtain ⟨front, back, rfl, hne, hrun, hfront, hback⟩ := h
    refine ⟨?_, by simpa using hne⟩
    have hmem := mem_splitWhere_run hrun hback
    rcases List.eq_nil_or_concat front with rfl | ⟨front, d, rfl⟩
    · exact hmem
    · have hd : test d = false := by
        rw [List.concat_eq_append, List.getLast?_concat] at hfront
        exact hfront
      rw [List.concat_eq_append, List.append_assoc, List.singleton_append,
        splitWhere_append_cons (by simp [hd])]
      exact List.mem_append_right _ hmem

/-! ### Places -/

namespace Pattern

variable {p : Pattern} {next : Trial} {previous : Option Char} {s : Text}

theorem occursFrom_iff : p.occursFrom previous s = true ↔
    ∃ front back, s = front ++ back ∧ p.startsAt (front.getLast?.or previous) back = true := by
  induction s generalizing previous with
  | nil =>
    rw [occursFrom]
    constructor
    · intro h
      exact ⟨[], [], rfl, h⟩
    · intro h
      obtain ⟨front, back, hs, h⟩ := h
      obtain ⟨rfl, rfl⟩ := List.append_eq_nil_iff.1 hs.symm
      exact h
  | cons c s ih =>
    rw [occursFrom, Bool.or_eq_true, ih]
    constructor
    · intro h
      rcases h with hhere | ⟨front, back, rfl, hlater⟩
      · exact ⟨[], c :: s, rfl, hhere⟩
      · refine ⟨c :: front, back, rfl, ?_⟩
        rw [getLast?_cons_or]
        exact hlater
    · intro h
      obtain ⟨front, back, hs, h⟩ := h
      cases front with
      | nil =>
        rw [List.nil_append] at hs
        exact .inl (hs ▸ h)
      | cons d front =>
        obtain ⟨rfl, rfl⟩ := List.cons.inj hs
        rw [getLast?_cons_or] at h
        exact .inr ⟨front, back, rfl, h⟩

/-- **A pattern occurs in a text** if the text can be cut at a place from where it can be followed. -/
theorem occursIn_iff : p.occursIn s = true ↔
    ∃ front back, s = front ++ back ∧ p.startsAt front.getLast? back = true := by
  rw [occursIn, occursFrom_iff]
  simp only [Option.or_none]

/-- Following any number of characters that pass a test. -/
theorem run_many_iff {test : Char → Bool} : (many test).run next previous s = true ↔
    ∃ used rest, s = used ++ rest ∧ (∀ c ∈ used, test c = true) ∧
      next (used.getLast?.or previous) rest = true := by
  show runMany test next previous s = true ↔ _
  induction s generalizing previous with
  | nil =>
    rw [runMany]
    constructor
    · intro h
      exact ⟨[], [], rfl, by simp, h⟩
    · intro h
      obtain ⟨used, rest, hs, -, h⟩ := h
      obtain ⟨rfl, rfl⟩ := List.append_eq_nil_iff.1 hs.symm
      exact h
  | cons c s ih =>
    rw [runMany, Bool.or_eq_true, Bool.and_eq_true, ih]
    constructor
    · intro h
      rcases h with hhere | ⟨hc, used, rest, rfl, hused, hlater⟩
      · exact ⟨[], c :: s, rfl, by simp, hhere⟩
      · refine ⟨c :: used, rest, rfl, ?_, ?_⟩
        · intro d hd
          rcases List.mem_cons.1 hd with rfl | hd
          · exact hc
          · exact hused d hd
        · rw [getLast?_cons_or]
          exact hlater
    · intro h
      obtain ⟨used, rest, hs, hused, h⟩ := h
      cases used with
      | nil =>
        rw [List.nil_append] at hs
        exact .inl (hs ▸ h)
      | cons d used =>
        obtain ⟨rfl, rfl⟩ := List.cons.inj hs
        rw [getLast?_cons_or] at h
        refine .inr ⟨hused c List.mem_cons_self, used, rest, rfl, ?_, h⟩
        intro d hd
        exact hused d (List.mem_cons_of_mem c hd)

/-- Following one of the characters of a string. -/
theorem run_among_iff {chars : String} : (among chars).run next previous s = true ↔
    ∃ c ∈ chars.toList, ∃ rest, s = c :: rest ∧ next (some c) rest = true := by
  cases s with
  | nil =>
    constructor
    · intro h
      cases h
    · intro h
      obtain ⟨c, -, rest, hs, -⟩ := h
      cases hs
  | cons d s =>
    show (chars.toList.contains d && next (some d) s) = true ↔ _
    rw [Bool.and_eq_true, List.contains_iff_mem]
    constructor
    · intro h
      exact ⟨d, h.1, s, rfl, h.2⟩
    · intro h
      obtain ⟨c, hc, rest, hs, h⟩ := h
      obtain ⟨rfl, rfl⟩ := List.cons.inj hs
      exact ⟨hc, h⟩

/-- A string occurs in a text exactly where it stands. -/
theorem occursIn_lit_iff {string : String} :
    (lit string).occursIn s = true ↔ string.toList <:+: s := by
  rw [occursIn_iff]
  constructor
  · intro h
    obtain ⟨front, back, rfl, h⟩ := h
    obtain ⟨rest, rfl, -⟩ := run_lit_iff.1 h
    exact ⟨front, rest, List.append_assoc _ _ _⟩
  · intro h
    obtain ⟨front, rest, rfl⟩ := h
    exact ⟨front, string.toList ++ rest, List.append_assoc _ _ _, run_lit_iff.2 ⟨rest, rfl, rfl⟩⟩

end Pattern

end ContractAudit.Text
