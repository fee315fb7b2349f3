import ContractAudit.Proofs.Text.Words
import ContractAudit.Source.Header

/-!
# Headers, described

What a header is, apart from how it is looked for: the word `function`, blanks, a name, perhaps
blanks, and an opening parenthesis.

* `StartsHeader` -- a text that starts with a header;
* `HeaderBehind` -- a header behind some text that does not run into its keyword;
* `FirstHeader` -- the header of a text with the least text in front of it.

The search finds exactly the first header (`header?_eq_some_iff`), and finds nothing exactly when
there is none (`header?_eq_none_iff`).
-/

namespace ContractAudit.Source

open ContractAudit.Text

/-! ### The description -/

/-- The text starts with a header that gives the name: keyword, blanks, name, perhaps blanks, and an
opening parenthesis. -/
def StartsHeader (name s : Text) : Prop :=
  ∃ gap space rest, s = "function".toList ++ (gap ++ (name ++ (space ++ '(' :: rest))) ∧
    gap ≠ [] ∧ (∀ c ∈ gap, isBlank c = true) ∧
    name ≠ [] ∧ (∀ c ∈ name, isWord c = true) ∧ ∀ c ∈ space, isBlank c = true

/-- Behind `front`, of which the last character is no part of a word, the text goes on with a
header. -/
def HeaderBehind (front name s : Text) : Prop :=
  front.getLast?.any isWord = false ∧ StartsHeader name s

/-- The first header of `s` gives the name, and `t` is the text from its keyword on. -/
def FirstHeader (s name t : Text) : Prop :=
  ∃ front, s = front ++ t ∧ HeaderBehind front name t ∧
    ∀ front' name' t', s = front' ++ t' → HeaderBehind front' name' t' →
      front.length ≤ front'.length

/-! ### The keyword -/

/-- The keyword of a header, character by character. -/
def keyword : Text :=
  ['f', 'u', 'n', 'c', 't', 'i', 'o', 'n']

theorem keyword_eq : "function".toList = keyword := by
  simp [keyword]

/-! ### One place -/

/-- The text after a leading text is what has to follow it. -/
theorem after?_eq_some_iff {lead s t : Text} : after? lead s = some t ↔ s = lead ++ t := by
  induction lead generalizing s with
  | nil => simp [after?, eq_comm]
  | cons c lead ih =>
    cases s with
    | nil => simp [after?]
    | cons d s =>
      rw [after?]
      split
      · rename_i hcd
        subst hcd
        rw [ih, List.cons_append, List.cons.injEq]
        simp
      · rename_i hcd
        simp [Ne.symm hcd]

/-- A name at the front of a text, with what follows, when the keyword and blanks stand in front. -/
theorem declaredName?_append {gap name rest : Text} (hgap : gap ≠ [])
    (hgap' : ∀ c ∈ gap, isBlank c = true) (hname : name ≠ [])
    (hname' : ∀ c ∈ name, isWord c = true) (hrest : rest.head?.any isWord = false) :
    declaredName? ("function".toList ++ (gap ++ (name ++ rest))) = some (name, rest) := by
  have hhead : (gap ++ (name ++ rest)).head?.any isBlank = true := by
    cases gap with
    | nil => exact absurd rfl hgap
    | cons c gap => simpa using hgap' c List.mem_cons_self
  have hblank : (name ++ rest).head?.any isBlank = false := by
    cases name with
    | nil => exact absurd rfl hname
    | cons c name => simpa using isBlank_of_isWord (hname' c List.mem_cons_self)
  have hempty : name.isEmpty = false := by simpa using hname
  simp only [declaredName?, after?_eq_some_iff.2 rfl, hhead, dropWhile_run hgap' hblank,
    takeWhile_run hname' hrest, dropWhile_run hname' hrest, hempty]
  rfl

/-- What is known of a text whose front declares a name. -/
theorem exists_of_declaredName? {s name rest : Text} (h : declaredName? s = some (name, rest)) :
    ∃ gap, s = "function".toList ++ (gap ++ (name ++ rest)) ∧ gap ≠ [] ∧
      (∀ c ∈ gap, isBlank c = true) ∧ name ≠ [] ∧ ∀ c ∈ name, isWord c = true := by
  unfold declaredName? at h
  split at h
  · cases h
  · rename_i t ht
    rw [after?_eq_some_iff] at ht
    split at h
    · cases h
    · rename_i hblank
      simp only at h
      split at h
      · cases h
      · rename_i hempty
        obtain ⟨rfl, rfl⟩ : (t.dropWhile isBlank).takeWhile isWord = name ∧
            (t.dropWhile isBlank).dropWhile isWord = rest := by simpa using h
        refine ⟨t.takeWhile isBlank, ?_, ?_, ?_, ?_, ?_⟩
        · rw [List.takeWhile_append_dropWhile, List.takeWhile_append_dropWhile]
          exact ht
        · cases t with
          | nil => simp at hblank
          | cons c t => simp_all
        · intro c hc
          exact List.all_eq_true.1 List.all_takeWhile c hc
        · simpa using hempty
        · intro c hc
          exact List.all_eq_true.1 List.all_takeWhile c hc

/-- **The test for a header finds what is described.** -/
theorem headerName?_eq_some_iff {s name : Text} : headerName? s = some name ↔ StartsHeader name s := by
  constructor
  · intro h
    unfold headerName? at h
    split at h
    · cases h
    · rename_i found rest hd
      split at h
      · rename_i hparen
        obtain rfl : found = name := by simpa using h
        obtain ⟨gap, hs, hgap, hgap', hname, hname'⟩ := exists_of_declaredName? hd
        cases hdrop : rest.dropWhile isBlank with
        | nil => simp [hdrop] at hparen
        | cons c after =>
          obtain rfl : c = '(' := by simpa [hdrop] using hparen
          refine ⟨gap, rest.takeWhile isBlank, after, ?_, hgap, hgap', hname, hname', ?_⟩
          · rw [← hdrop, List.takeWhile_append_dropWhile]
            exact hs
          · intro c hc
            exact List.all_eq_true.1 List.all_takeWhile c hc
      · cases h
  · rintro ⟨gap, space, rest, rfl, hgap, hgap', hname, hname', hspace⟩
    have hword : (space ++ '(' :: rest).head?.any isWord = false := by
      cases space with
      | nil => show isWord '(' = false; decide
      | cons c space => simpa using isWord_of_isBlank (hspace c List.mem_cons_self)
    have hparen : (space ++ '(' :: rest).dropWhile isBlank = '(' :: rest :=
      dropWhile_run hspace (by show isBlank '(' = false; decide)
    rw [headerName?, declaredName?_append hgap hgap' hname hname' hword]
    simp [hparen]

/-- A header gives one name. -/
theorem StartsHeader.name_eq {s name name' : Text} (h : StartsHeader name s)
    (h' : StartsHeader name' s) : name = name' := by
  rw [← headerName?_eq_some_iff] at h h'
  rw [h, Option.some.injEq] at h'
  exact h'

/-! ### The search -/

theorem headerFrom?_cons (previous : Option Char) (c : Char) (s : Text) :
    headerFrom? previous (c :: s)
      = ((if previous.any isWord then none else headerName? (c :: s)).map
          fun name => (name, c :: s)).or (headerFrom? (some c) s) := by
  rw [headerFrom?]
  cases (if previous.any isWord then none else headerName? (c :: s)) <;> rfl

/-- The search, `previous` being the character in front of the text.  What it finds is behind some
text, and nothing that could be found lies further in front. -/
theorem headerFrom?_spec (previous : Option Char) (s : Text) :
    (∀ name t, headerFrom? previous s = some (name, t) →
      ∃ front, s = front ++ t ∧ (front.getLast?.or previous).any isWord = false ∧
        StartsHeader name t ∧
        ∀ front' name' t', s = front' ++ t' → (front'.getLast?.or previous).any isWord = false →
          StartsHeader name' t' → front.length ≤ front'.length) ∧
    (headerFrom? previous s = none →
      ∀ front name t, s = front ++ t → (front.getLast?.or previous).any isWord = false →
        ¬ StartsHeader name t) := by
  induction s generalizing previous with
  | nil =>
    refine ⟨fun name t h => (by cases h), fun _ front name t h _ hstart => ?_⟩
    obtain ⟨gap, space, rest, ht, -⟩ := hstart
    simp [ht] at h
  | cons c s ih =>
    have hstep := headerFrom?_cons previous c s
    obtain ⟨ihsome, ihnone⟩ := ih (some c)
    -- behind one more character, the character in front is looked up in the same place
    have hlast (front : Text) : (c :: front).getLast?.or previous = front.getLast?.or (some c) := by
      cases front with
      | nil => rfl
      | cons d front => simp [List.getLast?_cons]
    cases hhere : (if previous.any isWord then none else headerName? (c :: s)) with
    | some found =>
      -- found at this very place
      rw [hhere, Option.map_some, Option.some_or] at hstep
      refine ⟨fun name t h => ?_, fun h => (by rw [hstep] at h; cases h)⟩
      rw [hstep] at h
      obtain ⟨rfl, rfl⟩ : found = name ∧ c :: s = t := by simpa using h
      split at hhere
      · cases hhere
      · rename_i hprev
        exact ⟨[], rfl, by simpa using hprev, headerName?_eq_some_iff.1 hhere,
          fun front' _ _ _ _ _ => Nat.zero_le front'.length⟩
    | none =>
      rw [hhere, Option.map_none, Option.none_or] at hstep
      -- nothing starts at this place
      have hnot (name : Text) (hprev : previous.any isWord = false) :
          ¬ StartsHeader name (c :: s) := by
        rw [← headerName?_eq_some_iff]
        rw [hprev, if_neg Bool.false_ne_true] at hhere
        rw [hhere]
        exact nofun
      refine ⟨fun name t h => ?_, fun h front name t hs hprev hstart => ?_⟩
      · rw [hstep] at h
        obtain ⟨front, hs, hprev, hstart, hleast⟩ := ihsome name t h
        refine ⟨c :: front, by rw [hs, List.cons_append], by rw [hlast]; exact hprev, hstart, ?_⟩
        intro front' name' t' hs' hprev' hstart'
        cases front' with
        | nil =>
          rw [List.nil_append] at hs'
          exact absurd (hs' ▸ hstart') (hnot name' hprev')
        | cons d front' =>
          obtain ⟨rfl, htail⟩ : c = d ∧ s = front' ++ t' := by simpa using hs'
          rw [hlast] at hprev'
          exact Nat.succ_le_succ (hleast front' name' t' htail hprev' hstart')
      · rw [hstep] at h
        cases front with
        | nil =>
          rw [List.nil_append] at hs
          exact hnot name hprev (hs ▸ hstart)
        | cons d front =>
          obtain ⟨rfl, htail⟩ : c = d ∧ s = front ++ t := by simpa using hs
          rw [hlast] at hprev
          exact ihnone h front name t htail hprev hstart

/-- **The search finds nothing exactly when there is no header.** -/
theorem header?_eq_none_iff {s : Text} :
    header? s = none ↔ ∀ front name t, s = front ++ t → ¬ HeaderBehind front name t := by
  obtain ⟨hsome, hnone⟩ := headerFrom?_spec none s
  simp only [Option.or_none] at hsome hnone
  constructor
  · intro h front name t hs hbehind
    exact hnone h front name t hs hbehind.1 hbehind.2
  · intro h
    cases hfound : header? s with
    | none => rfl
    | some found =>
      obtain ⟨front, hs, hprev, hstart, -⟩ := hsome found.1 found.2 hfound
      exact absurd ⟨hprev, hstart⟩ (h front found.1 found.2 hs)

/-- **The search finds the first header.** -/
theorem header?_eq_some_iff {s name t : Text} :
    header? s = some (name, t) ↔ FirstHeader s name t := by
  have hsome := (headerFrom?_spec none s).1
  simp only [Option.or_none] at hsome
  constructor
  · intro h
    obtain ⟨front, hs, hprev, hstart, hleast⟩ := hsome name t h
    exact ⟨front, hs, ⟨hprev, hstart⟩, fun front' name' t' hs' hb =>
      hleast front' name' t' hs' hb.1 hb.2⟩
  · rintro ⟨front, hs, hbehind, hleast⟩
    cases hfound : header? s with
    | none => exact absurd hbehind (header?_eq_none_iff.1 hfound front name t hs)
    | some found =>
      obtain ⟨front', hs', hprev', hstart', hleast'⟩ := hsome found.1 found.2 hfound
      -- both are first, so they are at the same place and give the same name
      have hle := hleast front' found.1 found.2 hs' ⟨hprev', hstart'⟩
      have hle' := hleast' front name t hs hbehind.1 hbehind.2
      have hsame : front = front' ∧ t = found.2 :=
        List.append_inj (hs.symm.trans hs') (Nat.le_antisymm hle hle')
      have hname : name = found.1 := hbehind.2.name_eq (hsame.2 ▸ hstart')
      rw [hname, hsame.2]

end ContractAudit.Source
