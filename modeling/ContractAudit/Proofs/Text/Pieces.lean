import ContractAudit.Text.Lines

/-!
# Cutting a text into pieces and putting it together again

`splitWhere` and `joinWith` are the library's `List.splitOnP` and `List.intercalate`, so their laws
are those of the library.  What the analyses need of them:

* `splitWhere_append_cons`, `splitWhere_append_left` -- a cut text is cut at each picked character
  and nowhere else;
* `splitWhere_append` -- the pieces of two texts put together;
* `splitWhere_joinWith`, `joinWith_splitWhere` -- joining and cutting are inverse to each other;
* `exists_take_splitWhere` -- the first pieces of a text are the pieces of its front, up to a picked
  character;
* `splitWhere_unlines` -- the lines of a stretch of a source are the lines that it was made of;
* `lines_append` -- the lines of two texts with a line feed between them;
* `exists_mem_lines_iff` -- no character of a text is lost on its lines, line ends apart.
-/

namespace ContractAudit.Text

/-! ### The library's cuts -/

/-- Putting a character in front of the first piece changes the first piece alone. -/
theorem consHead_eq_modifyHead (c : Char) {pieces : List Text} (h : pieces ≠ []) :
    consHead c pieces = pieces.modifyHead (c :: ·) := by
  cases pieces with
  | nil => exact absurd rfl h
  | cons piece pieces => rfl

theorem splitWhere_eq_splitOnP (p : Char → Bool) (s : Text) : splitWhere p s = s.splitOnP p := by
  induction s with
  | nil => rfl
  | cons c s ih =>
    rw [splitWhere, List.splitOnP_cons_eq_if_modifyHead, ih]
    split
    · rfl
    · exact consHead_eq_modifyHead c (List.splitOnP_ne_nil p s)

theorem joinWith_eq_intercalate (c : Char) (pieces : List Text) :
    joinWith c pieces = [c].intercalate pieces := by
  induction pieces with
  | nil => rfl
  | cons piece pieces ih =>
    cases pieces with
    | nil => simp [joinWith]
    | cons next pieces => rw [joinWith, ih] <;> simp

/-! ### Cutting -/

theorem splitWhere_ne_nil (p : Char → Bool) (s : Text) : splitWhere p s ≠ [] := by
  rw [splitWhere_eq_splitOnP]
  exact List.splitOnP_ne_nil p s

/-- **Induction along the cuts.**  What holds of the empty text and its one empty piece, is kept when
a picked character opens a new piece, and is kept when another character joins the first piece, holds
of every text and its pieces. -/
theorem splitWhere_induction {p : Char → Bool} {motive : Text → List Text → Prop}
    (nil : motive [] [[]])
    (cut : ∀ c s piece pieces, p c = true → motive s (piece :: pieces) →
      motive (c :: s) ([] :: piece :: pieces))
    (join : ∀ c s piece pieces, p c = false → motive s (piece :: pieces) →
      motive (c :: s) ((c :: piece) :: pieces))
    (s : Text) : motive s (splitWhere p s) := by
  induction s with
  | nil => exact nil
  | cons c s ih =>
    obtain ⟨piece, pieces, hs⟩ := List.exists_cons_of_ne_nil (splitWhere_ne_nil p s)
    rw [splitWhere]
    rw [hs] at ih ⊢
    split
    · rename_i hc
      exact cut c s piece pieces hc ih
    · rename_i hc
      exact join c s piece pieces (by simpa using hc) ih

/-- **Cutting at a picked character.**  What stands in front of it and what stands behind it are cut
on their own. -/
theorem splitWhere_append_cons {p : Char → Bool} {c : Char} (hc : p c = true) (s t : Text) :
    splitWhere p (s ++ c :: t) = splitWhere p s ++ splitWhere p t := by
  simp only [splitWhere_eq_splitOnP]
  exact List.splitOnP_append_cons s t hc

theorem splitWhere_eq_singleton {p : Char → Bool} {s : Text} (h : ∀ c ∈ s, p c = false) :
    splitWhere p s = [s] := by
  rw [splitWhere_eq_splitOnP]
  exact List.splitOnP_eq_singleton h

/-- A text without picked characters belongs to the first piece of what it is put in front of. -/
theorem splitWhere_append_left {p : Char → Bool} {s : Text} (h : ∀ c ∈ s, p c = false) (t : Text) :
    splitWhere p (s ++ t) = (splitWhere p t).modifyHead (s ++ ·) := by
  induction s with
  | nil =>
    show splitWhere p t = (splitWhere p t).modifyHead ([] ++ ·)
    cases splitWhere p t <;> rfl
  | cons c s ih =>
    have hc : p c = false := h c List.mem_cons_self
    have hs : ∀ d ∈ s, p d = false := fun d hd => h d (List.mem_cons_of_mem c hd)
    rw [List.cons_append, splitWhere, hc, ih hs]
    obtain ⟨piece, pieces, ht⟩ := List.exists_cons_of_ne_nil (splitWhere_ne_nil p t)
    rw [ht]
    rfl

theorem not_picked_of_mem_splitWhere {p : Char → Bool} {s piece : Text}
    (h : piece ∈ splitWhere p s) {c : Char} (hc : c ∈ piece) : p c = false := by
  have hall : ∀ piece ∈ splitWhere p s, ∀ c ∈ piece, p c = false := by
    refine splitWhere_induction (motive := fun _ ls => ∀ piece ∈ ls, ∀ c ∈ piece, p c = false)
      ?_ ?_ ?_ s
    · simp
    · intro d s first others _ ih piece hpiece
      rcases List.mem_cons.1 hpiece with rfl | hpiece
      · simp
      · exact ih piece hpiece
    · intro d s first others hd ih piece hpiece
      rcases List.mem_cons.1 hpiece with rfl | hpiece
      · intro c hc
        rcases List.mem_cons.1 hc with rfl | hc
        · exact hd
        · exact ih first List.mem_cons_self c hc
      · exact ih piece (List.mem_cons_of_mem first hpiece)
  exact hall piece h c hc

/-- Characters can be exchanged before or after cutting, when it does not matter for the cuts. -/
theorem splitWhere_map {p : Char → Bool} {f : Char → Char} (h : ∀ c, p (f c) = p c) (s : Text) :
    splitWhere p (s.map f) = (splitWhere p s).map (List.map f) := by
  refine splitWhere_induction (motive := fun s ls => splitWhere p (s.map f) = ls.map (List.map f))
    rfl ?_ ?_ s
  · intro c s piece pieces hc ih
    rw [List.map_cons, splitWhere, h c, hc, if_pos rfl, ih]
    rfl
  · intro c s piece pieces hc ih
    rw [List.map_cons, splitWhere, h c, hc, if_neg Bool.false_ne_true, ih]
    rfl

/-- The pieces of a text in front of another one: the last piece of the first text and the first piece of
the second become one. -/
theorem splitWhere_append {p : Char → Bool} (s : Text) {t first : Text} {later : List Text}
    (h : splitWhere p t = first :: later) :
    ∃ pieces last, splitWhere p s = pieces ++ [last] ∧
      splitWhere p (s ++ t) = pieces ++ (last ++ first) :: later := by
  induction s with
  | nil => exact ⟨[], [], rfl, h⟩
  | cons c s ih =>
    obtain ⟨pieces, last, hs, hst⟩ := ih
    rw [List.cons_append, splitWhere, splitWhere, hs, hst]
    by_cases hc : p c = true
    · exact ⟨[] :: pieces, last, by rw [if_pos hc]; rfl, by rw [if_pos hc]; rfl⟩
    · rw [if_neg hc, if_neg hc]
      cases pieces with
      | nil => exact ⟨[], c :: last, rfl, rfl⟩
      | cons piece pieces => exact ⟨(c :: piece) :: pieces, last, rfl, rfl⟩

/-- A text without picked characters belongs to the last piece of what it is put behind. -/
theorem splitWhere_append_right {p : Char → Bool} (s : Text) {t : Text}
    (h : ∀ c ∈ t, p c = false) :
    ∃ pieces last, splitWhere p s = pieces ++ [last] ∧
      splitWhere p (s ++ t) = pieces ++ [last ++ t] :=
  splitWhere_append s (splitWhere_eq_singleton h)

/-- A piece stands in the text, and the first one at its front. -/
theorem prefix_and_infix_splitWhere (p : Char → Bool) (s : Text) :
    (∀ first ∈ (splitWhere p s).head?, first <+: s) ∧ ∀ piece ∈ splitWhere p s, piece <:+: s := by
  refine splitWhere_induction
    (motive := fun s ls => (∀ first ∈ ls.head?, first <+: s) ∧ ∀ piece ∈ ls, piece <:+: s)
    ?_ ?_ ?_ s
  · simp
  · intro c s first others _ ih
    refine ⟨by simp, fun piece hpiece => ?_⟩
    rcases List.mem_cons.1 hpiece with rfl | hpiece
    · exact List.nil_infix
    · exact (ih.2 piece hpiece).trans (List.suffix_cons c s).isInfix
  · intro c s first others _ ih
    have hfirst : c :: first <+: c :: s := (List.prefix_cons_inj c).2 (ih.1 first rfl)
    refine ⟨by simpa using hfirst, fun piece hpiece => ?_⟩
    rcases List.mem_cons.1 hpiece with rfl | hpiece
    · exact hfirst.isInfix
    · exact (ih.2 piece (List.mem_cons_of_mem first hpiece)).trans
        (List.suffix_cons c s).isInfix

theorem prefix_of_splitWhere {p : Char → Bool} {s first : Text} {later : List Text}
    (h : splitWhere p s = first :: later) : first <+: s := by
  apply (prefix_and_infix_splitWhere p s).1
  rw [h]
  rfl

theorem infix_of_mem_splitWhere {p : Char → Bool} {s piece : Text} (h : piece ∈ splitWhere p s) :
    piece <:+: s :=
  (prefix_and_infix_splitWhere p s).2 piece h

/-- **The first pieces of a text.**  All but the last of the pieces, up to some place, are the pieces
of the text in front of a picked character. -/
theorem exists_take_splitWhere {p : Char → Bool} {s : Text} {k : Nat}
    (h : k + 1 < (splitWhere p s).length) :
    ∃ front c back, s = front ++ c :: back ∧ p c = true ∧
      (splitWhere p s).take (k + 1) = splitWhere p front := by
  induction s generalizing k with
  | nil =>
    rw [splitWhere, List.length_singleton] at h
    omega
  | cons d s ih =>
    by_cases hd : p d = true
    · -- the first piece is empty, and the others are those of the rest
      have hsplit : splitWhere p (d :: s) = [] :: splitWhere p s := by rw [splitWhere, if_pos hd]
      rw [hsplit] at h ⊢
      cases k with
      | zero => exact ⟨[], d, s, rfl, hd, rfl⟩
      | succ k =>
        obtain ⟨front, c, back, hs, hc, htake⟩ := ih (by simpa using h)
        refine ⟨d :: front, c, back, by rw [hs, List.cons_append], hc, ?_⟩
        rw [List.take_succ_cons, htake, splitWhere, if_pos hd]
    · -- the character joins the first piece
      have hd' : p d = false := by simpa using hd
      have hmod : ∀ t, splitWhere p (d :: t) = (splitWhere p t).modifyHead (d :: ·) := fun t => by
        rw [splitWhere, if_neg hd, consHead_eq_modifyHead d (splitWhere_ne_nil p t)]
      rw [hmod, List.length_modifyHead] at h
      obtain ⟨front, c, back, hs, hc, htake⟩ := ih h
      refine ⟨d :: front, c, back, by rw [hs, List.cons_append], hc, ?_⟩
      rw [hmod, hmod, ← htake]
      cases splitWhere p s <;> rfl

/-! ### Joining -/

theorem joinWith_splitWhere (c : Char) (s : Text) : joinWith c (splitWhere (· == c) s) = s := by
  rw [joinWith_eq_intercalate, splitWhere_eq_splitOnP, ← List.splitOn_eq_splitOnP]
  exact List.intercalate_splitOn c

theorem splitWhere_joinWith {c : Char} {pieces : List Text} (hne : pieces ≠ [])
    (h : ∀ piece ∈ pieces, c ∉ piece) : splitWhere (· == c) (joinWith c pieces) = pieces := by
  rw [joinWith_eq_intercalate, splitWhere_eq_splitOnP, ← List.splitOn_eq_splitOnP]
  exact List.splitOn_intercalate c h hne

/-! ### Parts of a text -/

theorem includes_eq_true_iff {part s : Text} : includes part s = true ↔ part <:+: s := by
  induction s with
  | nil => simp [includes]
  | cons c s ih =>
    rw [includes, Bool.or_eq_true, ih, List.isPrefixOf_iff_prefix, List.infix_cons_iff]

/-- A text in which a part does not stand is all in front of it. -/
theorem before_eq_self {stop s : Text} (h : ¬ stop <:+: s) : before stop s = s := by
  induction s with
  | nil => rfl
  | cons c s ih =>
    rw [List.infix_cons_iff, not_or] at h
    have hstop : stop.isPrefixOf (c :: s) = false := by
      rw [← Bool.not_eq_true, List.isPrefixOf_iff_prefix]
      exact h.1
    rw [before, hstop, if_neg Bool.false_ne_true, ih h.2]

/-- A text in which a part stands: what is in front of it, the part and the rest. -/
theorem exists_eq_before_append {stop s : Text} (h : stop <:+: s) :
    ∃ rest, s = before stop s ++ (stop ++ rest) := by
  induction s with
  | nil =>
    rw [List.infix_nil] at h
    exact ⟨[], by rw [h]; rfl⟩
  | cons c s ih =>
    rw [before]
    split
    · rename_i hprefix
      obtain ⟨rest, hrest⟩ := List.isPrefixOf_iff_prefix.1 hprefix
      exact ⟨rest, hrest.symm⟩
    · rename_i hprefix
      rw [List.isPrefixOf_iff_prefix] at hprefix
      obtain ⟨rest, hrest⟩ := ih ((List.infix_cons_iff.1 h).resolve_left hprefix)
      exact ⟨rest, congrArg (c :: ·) hrest⟩

/-! ### Lines -/

theorem newline_not_mem_of_mem_lines {s line : Text} (h : line ∈ lines s) : '\n' ∉ line := by
  intro hc
  have := not_picked_of_mem_splitWhere h hc
  simp at this

/-- The lines of some consecutive lines, taken as one text, are those lines. -/
theorem splitWhere_unlines {ls : List Text} (hne : ls ≠ []) (h : ∀ line ∈ ls, '\n' ∉ line) :
    splitWhere (· == '\n') (unlines ls) = ls :=
  splitWhere_joinWith hne h

theorem dropReturns_eq_self {s : Text} (h : '\r' ∉ s) : dropReturns s = s := by
  induction s with
  | nil => rfl
  | cons c s ih =>
    rw [List.mem_cons, not_or] at h
    rw [dropReturns, ih h.2]
    intro t hc
    exact absurd hc.symm h.1

theorem getLast?_ne_of_cons {c d : Char} {s : Text} (h : (c :: s).getLast? ≠ some d) :
    s.getLast? ≠ some d := by
  cases s with
  | nil => simp
  | cons e s => simpa using h

/-- A line feed in the middle leaves the two parts alone, unless the first one ends in the carriage
return that goes with it. -/
theorem dropReturns_append {a : Text} (h : a.getLast? ≠ some '\r') (b : Text) :
    dropReturns (a ++ '\n' :: b) = dropReturns a ++ '\n' :: dropReturns b := by
  fun_induction dropReturns a with
  | case1 => rfl
  | case2 s ih =>
    have hs := getLast?_ne_of_cons (getLast?_ne_of_cons h)
    rw [List.cons_append, List.cons_append, dropReturns, ih hs, List.cons_append]
  | case3 c s hpair ih =>
    -- a carriage return at the front is not followed by the line feed, since it is not the last
    have hfree : ∀ t, c = '\r' → s ++ '\n' :: b = '\n' :: t → False := by
      intro t hreturn heq
      cases s with
      | nil => exact h (by rw [hreturn]; rfl)
      | cons d s =>
        rw [List.cons_append, List.cons.injEq] at heq
        exact hpair s hreturn (by rw [heq.1])
    rw [List.cons_append, dropReturns, ih (getLast?_ne_of_cons h), List.cons_append]
    exact hfree

/-- The lines of two texts with a line feed between them. -/
theorem lines_append {a : Text} (h : a.getLast? ≠ some '\r') (b : Text) :
    lines (a ++ '\n' :: b) = lines a ++ lines b := by
  rw [lines, dropReturns_append h, splitWhere_append_cons (by rfl)]
  rfl

/-- A character other than a line feed is on one of the lines of a text exactly when it is in the
text. -/
theorem exists_mem_splitWhere_iff {c : Char} (hc : c ≠ '\n') (s : Text) :
    (∃ line ∈ splitWhere (· == '\n') s, c ∈ line) ↔ c ∈ s := by
  refine splitWhere_induction (motive := fun s ls => (∃ line ∈ ls, c ∈ line) ↔ c ∈ s) ?_ ?_ ?_ s
  · simp
  · intro d s line rest hd ih
    obtain rfl : d = '\n' := by simpa using hd
    rw [List.mem_cons, or_iff_right hc, ← ih]
    simp
  · intro d s line rest _ ih
    rw [List.mem_cons, ← ih]
    simp [or_assoc]

theorem mem_dropReturns_iff {c : Char} (hc : c ≠ '\r') (s : Text) : c ∈ dropReturns s ↔ c ∈ s := by
  fun_induction dropReturns s with
  | case1 => rfl
  | case2 s ih => simp only [List.mem_cons, hc, false_or, ih]
  | case3 d s _ ih => rw [List.mem_cons, List.mem_cons, ih]

/-- A character that is no line end is on one of the lines of a source exactly when it is in the
source. -/
theorem exists_mem_lines_iff {c : Char} (hfeed : c ≠ '\n') (hreturn : c ≠ '\r') (s : Text) :
    (∃ line ∈ lines s, c ∈ line) ↔ c ∈ s := by
  rw [lines, exists_mem_splitWhere_iff hfeed, mem_dropReturns_iff hreturn]

end ContractAudit.Text
