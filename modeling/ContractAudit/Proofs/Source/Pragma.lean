import ContractAudit.Proofs.Source.Header
import ContractAudit.Source.Version

/-!
# Pragmas and versions, described

What a pragma and a version are, apart from how they are looked for.  A pragma is the word `pragma`,
blanks, the word `solidity`, and what it says: a blank and at least one more character, up to the
next semicolon or the end.  A version is two rows of digits with a point between them, and a third
row after a further point.

* `StartsPragma`, `StartsVersion` -- a text that starts with one;
* `FirstAt` -- the one of a text with the least text in front of it;
* `firstPragma?_eq_some_iff`, `firstVersion?_eq_some_iff` -- the searches find the first one;
* `pragmaVersion_eq_error_iff` -- reading the version of a source fails exactly when the first
  version of its first pragma has a row of too many digits.
-/

namespace ContractAudit.Source

open ContractAudit.Text

/-! ### First places -/

section FirstPlace

variable {α : Type}

/-- The first place of `s` at which something starts gives `a`. -/
def FirstAt (Starts : α → Text → Prop) (s : Text) (a : α) : Prop :=
  ∃ front t, s = front ++ t ∧ Starts a t ∧
    ∀ front' t' a', s = front' ++ t' → Starts a' t' → front.length ≤ front'.length

theorem firstAt?_cons (here? : Text → Option α) (c : Char) (s : Text) :
    firstAt? here? (c :: s) = (here? (c :: s)).or (firstAt? here? s) := by
  rw [firstAt?]
  cases here? (c :: s) <;> rfl

theorem firstAt_cons {Starts : α → Text → Prop} {c : Char} {s : Text} {a : α} :
    FirstAt Starts (c :: s) a
      ↔ Starts a (c :: s) ∨ (∀ b, ¬ Starts b (c :: s)) ∧ FirstAt Starts s a := by
  constructor
  · rintro ⟨front, t, hs, hstart, hleast⟩
    cases front with
    | nil =>
      rw [List.nil_append] at hs
      exact .inl (hs ▸ hstart)
    | cons d front =>
      obtain ⟨rfl, htail⟩ : c = d ∧ s = front ++ t := by simpa using hs
      refine .inr ⟨fun b hb => ?_, front, t, htail, hstart, fun front' t' a' hs' hstart' => ?_⟩
      · exact Nat.not_succ_le_zero _ (hleast [] (c :: s) b rfl hb)
      · exact Nat.le_of_succ_le_succ
          (hleast (c :: front') t' a' (by rw [hs', List.cons_append]) hstart')
  · rintro (hstart | ⟨hnot, front, t, rfl, hstart, hleast⟩)
    · exact ⟨[], c :: s, rfl, hstart, fun front' _ _ _ _ => Nat.zero_le front'.length⟩
    · refine ⟨c :: front, t, rfl, hstart, fun front' t' a' hs' hstart' => ?_⟩
      cases front' with
      | nil =>
        rw [List.nil_append] at hs'
        exact absurd (hs' ▸ hstart') (hnot a')
      | cons d front' =>
        obtain ⟨-, htail⟩ : c = d ∧ front ++ t = front' ++ t' := by simpa using hs'
        exact Nat.succ_le_succ (hleast front' t' a' htail hstart')

/-- **A search from place to place finds the first place**, when its test tells what starts. -/
theorem firstAt?_eq_some_iff {here? : Text → Option α} {Starts : α → Text → Prop}
    (hstarts : ∀ a s, here? s = some a ↔ Starts a s) (hend : here? [] = none) {s : Text} {a : α} :
    firstAt? here? s = some a ↔ FirstAt Starts s a := by
  induction s with
  | nil =>
    refine ⟨nofun, fun ⟨front, t, hs, hstart, _⟩ => ?_⟩
    obtain ⟨-, rfl⟩ := List.append_eq_nil_iff.1 hs.symm
    rw [← hstarts, hend] at hstart
    cases hstart
  | cons c s ih =>
    rw [firstAt_cons, ← ih, firstAt?_cons]
    simp only [← hstarts]
    cases here? (c :: s) <;> simp

end FirstPlace

/-! ### Pragmas -/

/-- The text starts with a pragma that says `body`. -/
def StartsPragma (body s : Text) : Prop :=
  ∃ gap rest, s = "pragma".toList ++ (gap ++ ("solidity".toList ++ (body ++ rest))) ∧
    gap ≠ [] ∧ (∀ c ∈ gap, isBlank c = true) ∧
    (∃ space c said, body = space :: c :: said ∧ isBlank space = true) ∧
    ';' ∉ body ∧ (rest = [] ∨ rest.head? = some ';')

theorem head?_any_bne_eq_false_iff {stop : Char} {rest : Text} :
    rest.head?.any (· != stop) = false ↔ rest = [] ∨ rest.head? = some stop := by
  cases rest <;> simp

/-- **The test for a pragma finds what is described.** -/
theorem pragmaBody?_eq_some_iff (body s : Text) :
    pragmaBody? s = some body ↔ StartsPragma body s := by
  constructor
  · intro h
    unfold pragmaBody? at h
    split at h
    · cases h
    · rename_i t ht
      rw [after?_eq_some_iff] at ht
      split at h
      · cases h
      · rename_i hblank
        split at h
        · rename_i space c said hsolidity
          rw [after?_eq_some_iff] at hsolidity
          split at h
          · rename_i hsays
            obtain ⟨hspace, hc⟩ : isBlank space = true ∧ c ≠ ';' := by simpa using hsays
            obtain rfl := Option.some.inj h
            have hspace' : space ≠ ';' := by
              rintro rfl
              exact absurd hspace (by decide)
            refine ⟨t.takeWhile isBlank, (space :: c :: said).dropWhile (· != ';'), ?_, ?_, ?_, ?_,
              ?_, head?_any_bne_eq_false_iff.1 (head?_dropWhile_any _ _)⟩
            · rw [List.takeWhile_append_dropWhile, ← hsolidity, List.takeWhile_append_dropWhile]
              exact ht
            · cases t with
              | nil => simp at hblank
              | cons d t => simp_all
            · exact fun d hd => List.all_eq_true.1 List.all_takeWhile d hd
            · exact ⟨space, c, said.takeWhile (· != ';'), by simp [hspace', hc], hspace⟩
            · intro hmem
              have hstop := List.all_eq_true.1 List.all_takeWhile ';' hmem
              simp at hstop
          · cases h
        · cases h
  · rintro ⟨gap, rest, rfl, hgap, hgap', ⟨space, c, said, rfl, hspace⟩, hbody, hrest⟩
    have hhead : (gap ++ ("solidity".toList ++ (space :: c :: said ++ rest))).head?.any isBlank
        = true := by
      cases gap with
      | nil => exact absurd rfl hgap
      | cons d gap => simpa using hgap' d List.mem_cons_self
    have hword : ("solidity".toList ++ (space :: c :: said ++ rest)).head?.any isBlank = false := by
      have hletter : "solidity".toList.head? = some 's' := by decide
      rw [List.head?_append, hletter]
      show isBlank 's' = false
      decide
    have hsays := takeWhile_run (forall_bne_of_not_mem hbody) (head?_any_bne_eq_false_iff.2 hrest)
    have hc : c ≠ ';' := by
      rintro rfl
      simp at hbody
    simp only [pragmaBody?, after?_eq_some_iff.2 rfl, hhead, dropWhile_run hgap' hword]
    show (if (isBlank space && c != ';') = true
      then some ((space :: c :: (said ++ rest)).takeWhile (· != ';')) else none) = _
    rw [if_pos (by simp [hspace, hc])]
    exact congrArg some hsays

/-- **The search for a pragma finds the first one.** -/
theorem firstPragma?_eq_some_iff {s body : Text} :
    firstPragma? s = some body ↔ FirstAt StartsPragma s body :=
  firstAt?_eq_some_iff pragmaBody?_eq_some_iff rfl

/-! ### Versions -/

/-- The rows of digits of a version. -/
def digitRowsOf (digits : Text × Text × Text) : List Text :=
  [digits.1, digits.2.1, digits.2.2]

/-- The text starts with a version whose rows are the given digits.  Each row goes on for as long as
there are digits; the third one is empty when there is no further point. -/
def StartsVersion (digits : Text × Text × Text) (s : Text) : Prop :=
  ∃ rest, s = digits.1 ++ '.' :: (digits.2.1 ++ rest) ∧ digits.1 ≠ [] ∧ digits.2.1 ≠ [] ∧
    (∀ row ∈ digitRowsOf digits, ∀ c ∈ row, isDigit c = true) ∧
    rest.head?.any isDigit = false ∧
    ((∃ after, rest = '.' :: (digits.2.2 ++ after) ∧ after.head?.any isDigit = false) ∨
      (rest.head? ≠ some '.' ∧ digits.2.2 = []))

theorem forall_isDigit_digitRowsOf {major minor patch : Text} :
    (∀ row ∈ digitRowsOf (major, minor, patch), ∀ c ∈ row, isDigit c = true)
      ↔ (∀ c ∈ major, isDigit c = true) ∧ (∀ c ∈ minor, isDigit c = true) ∧
        ∀ c ∈ patch, isDigit c = true := by
  simp [digitRowsOf]

/-- **The test for a version finds what is described.** -/
theorem versionDigits?_eq_some_iff (digits : Text × Text × Text) (s : Text) :
    versionDigits? s = some digits ↔ StartsVersion digits s := by
  obtain ⟨major, minor, patch⟩ := digits
  have hrow (t : Text) : ∀ c ∈ t.takeWhile isDigit, isDigit c = true :=
    fun c hc => List.all_eq_true.1 List.all_takeWhile c hc
  simp only [StartsVersion, forall_isDigit_digitRowsOf]
  constructor
  · intro h
    unfold versionDigits? at h
    simp only [List.isEmpty_iff] at h
    split at h
    · cases h
    · rename_i hmajor
      split at h
      · rename_i t ht
        split at h
        · cases h
        · rename_i hminor
          have hs : s = s.takeWhile isDigit
              ++ '.' :: (t.takeWhile isDigit ++ t.dropWhile isDigit) := by
            rw [List.takeWhile_append_dropWhile, ← ht, List.takeWhile_append_dropWhile]
          have hrest := head?_dropWhile_any isDigit t
          split at h
          · rename_i u hu
            cases h
            refine ⟨t.dropWhile isDigit, hs, hmajor, hminor, ⟨hrow s, hrow t, hrow u⟩, hrest,
              .inl ?_⟩
            refine ⟨u.dropWhile isDigit, ?_, head?_dropWhile_any isDigit u⟩
            rw [List.takeWhile_append_dropWhile, hu]
          · rename_i hpoint
            cases h
            refine ⟨t.dropWhile isDigit, hs, hmajor, hminor, ⟨hrow s, hrow t, nofun⟩, hrest,
              .inr ?_⟩
            refine ⟨fun hhead => ?_, rfl⟩
            obtain ⟨u, hu⟩ := List.head?_eq_some_iff.1 hhead
            exact hpoint u hu
      · cases h
  · rintro ⟨rest, rfl, hmajor, hminor, ⟨hmajor', hminor', hpatch⟩, hrest, hlast⟩
    have hpoint : ('.' :: (minor ++ rest)).head?.any isDigit = false := by
      show isDigit '.' = false
      decide
    have hempty : major.isEmpty = false := by simpa using hmajor
    have hempty' : minor.isEmpty = false := by simpa using hminor
    rw [versionDigits?, takeWhile_run hmajor' hpoint, dropWhile_run hmajor' hpoint]
    simp only [hempty, takeWhile_run hminor' hrest, dropWhile_run hminor' hrest, hempty',
      Bool.false_eq_true, if_false]
    rcases hlast with ⟨after, rfl, hafter⟩ | ⟨hother, rfl⟩
    · show some (major, minor, (patch ++ after).takeWhile isDigit) = _
      rw [takeWhile_run hpatch hafter]
    · split
      · exact absurd rfl hother
      · rfl

/-- **The search for a version finds the first one.** -/
theorem firstVersion?_eq_some_iff {s : Text} {digits : Text × Text × Text} :
    firstVersion? s = some digits ↔ FirstAt StartsVersion s digits :=
  firstAt?_eq_some_iff versionDigits?_eq_some_iff rfl

/-! ### Numbers that are too long -/

/-- The first of the rows with more digits than are read has `n` of them. -/
def HasLongRow (digits : Text × Text × Text) (n : Nat) : Prop :=
  ((digitRowsOf digits).map List.length).find? (fun length => decide (4300 < length)) = some n

/-- The first pragma of the source names a version first of which a row is too long to be read: the
first such row has `n` digits. -/
def NamesLongNumber (source : Text) (n : Nat) : Prop :=
  ∃ body digits, FirstAt StartsPragma source body ∧ FirstAt StartsVersion body digits ∧
    HasLongRow digits n

theorem readNumber_of_long {digits : Text} (h : 4300 < digits.length) :
    readNumber digits = .error (.longNumber digits.length) :=
  if_pos h

theorem readNumber_of_short {digits : Text} (h : ¬ 4300 < digits.length) :
    readNumber digits = .ok (natOfDigits digits) :=
  if_neg h

/-- The rows of a version are read from left to right, up to one that is too long. -/
theorem readVersion_eq_error_iff {digits : Text × Text × Text} {failure : Failure} :
    readVersion digits = .error failure ↔ ∃ n, failure = .longNumber n ∧ HasLongRow digits n := by
  obtain ⟨major, minor, patch⟩ := digits
  simp only [HasLongRow, digitRowsOf, List.map_cons, List.map_nil, List.find?_cons, List.find?_nil]
  by_cases hmajor : 4300 < major.length
  · simp [readVersion, readNumber_of_long hmajor, hmajor, bind, Except.bind, eq_comm]
  by_cases hminor : 4300 < minor.length
  · simp [readVersion, readNumber_of_short hmajor, readNumber_of_long hminor, hmajor, hminor, bind,
      Except.bind, eq_comm]
  by_cases hpatch : 4300 < patch.length
  · simp [readVersion, readNumber_of_short hmajor, readNumber_of_short hminor,
      readNumber_of_long hpatch, hmajor, hminor, hpatch, bind, Except.bind, eq_comm]
  · simp [readVersion, readNumber_of_short, hmajor, hminor, hpatch, bind, Except.bind, pure,
      Except.pure]

/-- **The version of a source cannot be read** exactly when its first pragma names it with a row of
too many digits. -/
theorem pragmaVersion_eq_error_iff {source : Text} {failure : Failure} :
    pragmaVersion source = .error failure
      ↔ ∃ n, failure = .longNumber n ∧ NamesLongNumber source n := by
  simp only [NamesLongNumber, ← firstPragma?_eq_some_iff, ← firstVersion?_eq_some_iff]
  cases hpragma : firstPragma? source with
  | none => simp [pragmaVersion, hpragma]
  | some body =>
    cases hversion : firstVersion? body with
    | none => simp [pragmaVersion, findVersion, hpragma, hversion]
    | some digits =>
      have hread : (readVersion digits).map some = .error failure
          ↔ readVersion digits = .error failure := by
        cases readVersion digits <;> simp [Except.map]
      have hnames (n : Nat) : (∃ body' digits', some body = some body' ∧
          firstVersion? body' = some digits' ∧ HasLongRow digits' n) ↔ HasLongRow digits n := by
        constructor
        · rintro ⟨body', digits', hbody, hdigits, hlong⟩
          cases hbody
          rw [hversion] at hdigits
          cases hdigits
          exact hlong
        · exact fun hlong => ⟨body, digits, rfl, hversion, hlong⟩
      simp only [hnames, pragmaVersion, findVersion, hpragma, hversion, hread,
        readVersion_eq_error_iff]

end ContractAudit.Source
