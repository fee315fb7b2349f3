import ContractAudit.Text.Pattern
import Mathlib.Data.List.TakeWhile

/-!
# Visible characters

A character is visible when it is not blank.  Trimming a text leaves something exactly when there is
a visible character in it (`trim_eq_nil_iff`), and what it leaves in front is what is seen first
(`prefix_trim_iff`).

A pattern may demand a character of some class: there is one in every stretch that the pattern
describes.  `Demands` reads this off the pattern, part by part, and `exists_of_run` is the
justification: following a pattern passes over some front of the text, and a character that is
demanded stands in that front.  Hence a text in which such a pattern occurs has such a character
(`exists_mem_of_occursIn`).
-/

namespace ContractAudit.Text

/-! ### Trimming -/

theorem trim_eq_nil_iff {s : Text} : trim s = [] ↔ ∀ c ∈ s, isBlank c = true := by
  rw [trim, trimRight, List.reverse_eq_nil_iff, List.dropWhile_eq_nil_iff]
  constructor
  · intro h
    have hnil : s.dropWhile isBlank = [] := by
      cases hdrop : s.dropWhile isBlank with
      | nil => rfl
      | cons c rest =>
        -- what is left starts with a visible character, and all of it is blank
        have hvisible := List.head?_dropWhile_not isBlank s
        rw [hdrop] at h hvisible
        have hblank := h c (by simp)
        simp [hblank] at hvisible
    exact List.dropWhile_eq_nil_iff.1 hnil
  · intro h c hc
    rw [List.dropWhile_eq_nil_iff.2 h] at hc
    cases hc

theorem trim_ne_nil {s : Text} (h : ∃ c ∈ s, isBlank c = false) : trim s ≠ [] := by
  intro hnil
  obtain ⟨c, hc, hvisible⟩ := h
  rw [trim_eq_nil_iff.1 hnil c hc] at hvisible
  cases hvisible

theorem isPrefix_trimRight (s : Text) : trimRight s <+: s := by
  have hsuffix := List.dropWhile_suffix isBlank (l := s.reverse)
  rw [← List.reverse_prefix, List.reverse_reverse] at hsuffix
  exact hsuffix

/-- Nothing up to a visible character is trimmed at the end. -/
theorem prefix_trimRight (part : Text) {c : Char} (hc : isBlank c = false) (rest : Text) :
    part ++ [c] <+: trimRight (part ++ [c] ++ rest) := by
  have hkept : (c :: part.reverse).dropWhile isBlank = c :: part.reverse :=
    List.dropWhile_cons_of_neg (by simp [hc])
  have hreverse : (part ++ [c] ++ rest).reverse = rest.reverse ++ c :: part.reverse := by simp
  rw [trimRight, hreverse, List.dropWhile_append]
  split
  · rw [hkept]
    simp
  · simp

/-- A part that ends in a visible character stands at the front of a trimmed text exactly when it is
the first thing to be seen. -/
theorem prefix_trim_iff (part s : Text) {c : Char} (hc : isBlank c = false) :
    part ++ [c] <+: trim s ↔ part ++ [c] <+: s.dropWhile isBlank := by
  constructor
  · intro h
    exact h.trans (isPrefix_trimRight _)
  · rintro ⟨rest, hrest⟩
    rw [trim, ← hrest]
    exact prefix_trimRight part hc rest

theorem isPrefix_before (stop s : Text) : before stop s <+: s := by
  induction s with
  | nil => exact List.prefix_refl []
  | cons c s ih =>
    rw [before]
    split
    · exact List.nil_prefix
    · exact (List.prefix_cons_inj c).2 ih

/-! ### What a pattern demands -/

namespace Pattern

/-- Every stretch that the pattern describes has a character that is wanted. -/
def Demands (wanted : Char → Bool) : Pattern → Prop
  | one test => ∀ c, test c = true → wanted c = true
  | seq first second => first.Demands wanted ∨ second.Demands wanted
  | either left right => left.Demands wanted ∧ right.Demands wanted
  | repeated body => body.Demands wanted
  | _ => False

variable {wanted : Char → Bool}

@[simp]
theorem demands_append {p q : Pattern} :
    (p ++ q).Demands wanted ↔ p.Demands wanted ∨ q.Demands wanted := Iff.rfl

@[simp]
theorem demands_or {p q : Pattern} :
    (p ||| q).Demands wanted ↔ p.Demands wanted ∧ q.Demands wanted := Iff.rfl

theorem demands_lit {s : String} (h : s.toList.any wanted = true) : (lit s).Demands wanted := by
  rw [lit]
  generalize s.toList = chars at h
  induction chars with
  | nil => cases h
  | cons d chars ih =>
    rw [List.foldr_cons, demands_append]
    rw [List.any_cons, Bool.or_eq_true] at h
    rcases h with hd | hlater
    · refine .inl fun c hc => ?_
      rwa [eq_of_beq hc]
    · exact .inr (ih hlater)

theorem demands_oneOf {strings : List String}
    (h : (strings.all fun s => s.toList.any wanted) = true) : (oneOf strings).Demands wanted := by
  induction strings with
  | nil => exact fun c hc => nomatch hc
  | cons s rest ih =>
    rw [List.all_cons, Bool.and_eq_true] at h
    cases rest with
    | nil => exact demands_lit h.1
    | cons next rest => exact ⟨demands_lit h.1, ih h.2⟩

/-! ### What following a pattern passes over -/

theorem exists_of_runMany {test : Char → Bool} {next : Trial} {previous : Option Char} {s : Text}
    (h : runMany test next previous s = true) :
    ∃ used rest last, s = used ++ rest ∧ next last rest = true := by
  induction s generalizing previous with
  | nil => exact ⟨[], [], previous, rfl, h⟩
  | cons c s ih =>
    rw [runMany, Bool.or_eq_true, Bool.and_eq_true] at h
    rcases h with hhere | ⟨-, hlater⟩
    · exact ⟨[], c :: s, previous, rfl, hhere⟩
    · obtain ⟨used, rest, last, rfl, hnext⟩ := ih hlater
      exact ⟨c :: used, rest, last, rfl, hnext⟩

theorem exists_of_runRepeated {step : Trial → Trial}
    (hstep : ∀ {next : Trial} {previous s}, step next previous s = true →
      ∃ used rest last, s = used ++ rest ∧ next last rest = true)
    {next : Trial} {n : Nat} {previous : Option Char} {s : Text}
    (h : runRepeated step next n previous s = true) :
    ∃ used rest last, s = used ++ rest ∧ next last rest = true := by
  induction n generalizing previous s with
  | zero => exact ⟨[], s, previous, rfl, h⟩
  | succ n ih =>
    rw [runRepeated, Bool.or_eq_true] at h
    rcases h with hhere | hlater
    · exact ⟨[], s, previous, rfl, hhere⟩
    · obtain ⟨used, rest, last, rfl, hmore⟩ := hstep hlater
      obtain ⟨used', rest', last', rfl, hnext⟩ := ih hmore
      exact ⟨used ++ used', rest', last', (List.append_assoc _ _ _).symm, hnext⟩

/-- **Following a pattern** passes over some front of the text, in which the characters stand that
the pattern demands, and goes on with the rest. -/
theorem exists_of_run (p : Pattern) {next : Trial} {previous : Option Char} {s : Text}
    (h : p.run next previous s = true) :
    ∃ used rest last, s = used ++ rest ∧ next last rest = true ∧
      (p.Demands wanted → ∃ c ∈ used, wanted c = true) := by
  induction p generalizing next previous s with
  | nothing => exact ⟨[], s, previous, rfl, h, False.elim⟩
  | one test =>
    cases s with
    | nil => cases h
    | cons c s =>
      rw [run, Bool.and_eq_true] at h
      exact ⟨[c], s, some c, rfl, h.2, fun hdemands =>
        ⟨c, List.mem_singleton_self c, hdemands c h.1⟩⟩
  | many test =>
    obtain ⟨used, rest, last, hs, hnext⟩ := exists_of_runMany h
    exact ⟨used, rest, last, hs, hnext, False.elim⟩
  | seq first second ihfirst ihsecond =>
    obtain ⟨used, rest, last, rfl, hmore, hfirst⟩ := ihfirst h
    obtain ⟨used', rest', last', rfl, hnext, hsecond⟩ := ihsecond hmore
    refine ⟨used ++ used', rest', last', (List.append_assoc _ _ _).symm, hnext, ?_⟩
    rintro (hdemands | hdemands)
    · obtain ⟨c, hc, hwanted⟩ := hfirst hdemands
      exact ⟨c, List.mem_append_left _ hc, hwanted⟩
    · obtain ⟨c, hc, hwanted⟩ := hsecond hdemands
      exact ⟨c, List.mem_append_right _ hc, hwanted⟩
  | either left right ihleft ihright =>
    rw [run, Bool.or_eq_true] at h
    rcases h with hleft | hright
    · obtain ⟨used, rest, last, hs, hnext, hused⟩ := ihleft hleft
      exact ⟨used, rest, last, hs, hnext, fun hdemands => hused hdemands.1⟩
    · obtain ⟨used, rest, last, hs, hnext, hused⟩ := ihright hright
      exact ⟨used, rest, last, hs, hnext, fun hdemands => hused hdemands.2⟩
  | repeated body ih =>
    -- the first round has what is demanded, the others only go on
    obtain ⟨used, rest, last, rfl, hmore, hused⟩ := ih h
    obtain ⟨used', rest', last', rfl, hnext⟩ := exists_of_runRepeated
      (fun hround => by
        obtain ⟨used, rest, last, hs, hnext, -⟩ := ih hround
        exact ⟨used, rest, last, hs, hnext⟩) hmore
    refine ⟨used ++ used', rest', last', (List.append_assoc _ _ _).symm, hnext, ?_⟩
    intro hdemands
    obtain ⟨c, hc, hwanted⟩ := hused hdemands
    exact ⟨c, List.mem_append_left _ hc, hwanted⟩
  | textStart | textEnd | wordEdge | notAfter test | notBefore test =>
    -- a condition on the surroundings passes over nothing
    rw [run, Bool.and_eq_true] at h
    exact ⟨[], s, previous, rfl, h.2, False.elim⟩

/-- A text in which a pattern occurs has a character that the pattern demands. -/
theorem exists_mem_of_occursIn {p : Pattern} (hp : p.Demands wanted) {s : Text}
    (h : p.occursIn s = true) : ∃ c ∈ s, wanted c = true := by
  have hstart : ∀ previous s, p.startsAt previous s = true → ∃ c ∈ s, wanted c = true := by
    intro previous s h
    obtain ⟨used, rest, last, rfl, -, hused⟩ := exists_of_run p h
    obtain ⟨c, hc, hwanted⟩ := hused hp
    exact ⟨c, List.mem_append_left _ hc, hwanted⟩
  have hfrom : ∀ previous, p.occursFrom previous s = true → ∃ c ∈ s, wanted c = true := by
    clear h
    induction s with
    | nil => exact fun previous h => hstart previous [] h
    | cons d s ih =>
      intro previous h
      rw [occursFrom, Bool.or_eq_true] at h
      rcases h with hhere | hlater
      · exact hstart previous (d :: s) hhere
      · obtain ⟨c, hc, hwanted⟩ := ih (some d) hlater
        exact ⟨c, List.mem_cons_of_mem d hc, hwanted⟩
  exact hfrom none h

end Pattern

end ContractAudit.Text
