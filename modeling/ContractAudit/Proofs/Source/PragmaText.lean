import ContractAudit.Proofs.Number.Decimal
import ContractAudit.Proofs.Source.Pragma
import ContractAudit.Proofs.Text.Spacing

/-!
# Versions read back

What is written down as a version is read as that version, wherever it stands.

* `natOfDigits_toDigits`, `length_toDigits_natOfDigits_le` -- a number and its decimal digits;
* `Version.IsShort` -- a version whose numbers have few enough digits to be read;
* `firstVersion?_append` -- the search for a version passes over everything without digits;
* `LeadsToVersion` -- what may stand in front of the version that the first pragma of a source names;
* `pragmaVersion_lead` -- the version behind it is the one that is read;
* `parseVersion_render`, `isShort_of_pragmaVersion` -- a version that was read can be written and read again.

The word `pragma` starts with a letter that it does not repeat, so it cannot start inside of itself: where it
stands behind a text that does not have it, it stands for the first time (`not_prefix_append`).
-/

namespace ContractAudit.Source

open ContractAudit.Text

/-! ### Digits -/

/-- The decimal digits as runs of code points. -/
def digitTable : CodeTable :=
  (48, 57) :: digitRows

theorem toNat_of_ascii {c : Char} (h : c.isDigit = true) : 48 ≤ c.toNat ∧ c.toNat ≤ 57 :=
  Char.isDigit_iff_toNat.1 h

theorem digitValue?_of_ascii {c : Char} (h : c.isDigit = true) :
    digitValue? c = some (c.toNat - 48) := by
  have hascii : c.toNat < 128 := by
    have hrange := toNat_of_ascii h
    omega
  simp only [digitValue?, if_pos hascii, if_pos h]

theorem isDigit_of_ascii {c : Char} (h : c.isDigit = true) : isDigit c = true := by
  rw [isDigit, digitValue?_of_ascii h]
  rfl

theorem digitTable_holds_of_isDigit {c : Char} (h : isDigit c = true) :
    digitTable.holds c.toNat = true := by
  simp only [isDigit, digitValue?] at h
  rw [CodeTable.holds, digitTable, List.any_cons, Bool.or_eq_true]
  by_cases hascii : c.toNat < 128
  · rw [if_pos hascii] at h
    by_cases hdigit : c.isDigit = true
    · have hrange := toNat_of_ascii hdigit
      exact .inl (by simpa using hrange)
    · rw [if_neg hdigit] at h
      cases h
  · rw [if_neg hascii, Option.isSome_map, List.find?_isSome] at h
    exact .inr (List.any_eq_true.2 h)

theorem isDigit_of_isBlank {c : Char} (h : isBlank c = true) : isDigit c = false := by
  rw [← Bool.not_eq_true]
  intro hdigit
  have hapart : blankTable.isApart digitTable = true := by decide
  have hnot := CodeTable.not_holds_of_isApart hapart (blankTable_holds_of_isBlank h)
  rw [digitTable_holds_of_isDigit hdigit] at hnot
  cases hnot

theorem digitValue_lt (c : Char) : (digitValue? c).getD 0 < 10 := by
  rw [digitValue?]
  by_cases hascii : c.toNat < 128
  · by_cases hdigit : c.isDigit = true
    · have hrange := toNat_of_ascii hdigit
      simp only [if_pos hascii, if_pos hdigit, Option.getD_some]
      omega
    · simp [if_pos hascii, if_neg hdigit]
  · simp only [if_neg hascii]
    cases digitRows.find? fun row => decide (row.1 ≤ c.toNat) && decide (c.toNat ≤ row.2) with
    | none => exact Nat.succ_pos 9
    | some row => exact Nat.mod_lt _ (by decide)

theorem foldl_digits_eq {s : Text} (h : ∀ c ∈ s, c.isDigit = true) (n : Nat) :
    s.foldl (fun n c => 10 * n + (digitValue? c).getD 0) n = Nat.ofDigitChars 10 s n := by
  induction s generalizing n with
  | nil => rfl
  | cons c s ih =>
    have hc := digitValue?_of_ascii (h c List.mem_cons_self)
    rw [List.foldl_cons, Nat.ofDigitChars_cons, ih fun d hd => h d (List.mem_cons_of_mem c hd), hc]
    rfl

/-- **The decimal digits of a number** write that number. -/
theorem natOfDigits_toDigits (n : Nat) : natOfDigits (Nat.toDigits 10 n) = n :=
  (foldl_digits_eq (fun _ hc => isDigit_of_mem_decimal hc) 0).trans Nat.ofDigitChars_ten_toDigits

theorem foldl_digits_lt (s : Text) (n : Nat) :
    s.foldl (fun n c => 10 * n + (digitValue? c).getD 0) n < (n + 1) * Nat.pow 10 s.length := by
  induction s generalizing n with
  | nil => exact Nat.lt_of_lt_of_eq (Nat.lt_succ_self n) (Nat.mul_one _).symm
  | cons c s ih =>
    have hvalue := digitValue_lt c
    calc (c :: s).foldl (fun n c => 10 * n + (digitValue? c).getD 0) n
        < (10 * n + (digitValue? c).getD 0 + 1) * Nat.pow 10 s.length := ih _
      _ ≤ ((n + 1) * 10) * Nat.pow 10 s.length := Nat.mul_le_mul_right _ (by omega)
      _ = (n + 1) * (Nat.pow 10 s.length * 10) := by
        rw [Nat.mul_assoc, Nat.mul_comm 10 (Nat.pow 10 s.length)]

/-- The number that a row of digits writes has no more digits than the row. -/
theorem length_toDigits_natOfDigits_le {s : Text} {limit : Nat} (hlimit : 0 < limit)
    (h : s.length ≤ limit) : (Nat.toDigits 10 (natOfDigits s)).length ≤ limit := by
  rw [Nat.length_toDigits_le_iff (by decide) hlimit]
  have hlt : natOfDigits s < (0 + 1) * Nat.pow 10 s.length := foldl_digits_lt s 0
  rw [Nat.zero_add, Nat.one_mul] at hlt
  exact Nat.lt_of_lt_of_le hlt (Nat.pow_le_pow_right (by decide) h)

/-! ### Written versions -/

/-- The numbers of the version have at most as many digits as are read. -/
def Version.IsShort (v : Version) : Prop :=
  ∀ n ∈ v.parts, (Nat.toDigits 10 n).length ≤ 4300

theorem Version.toList_render (v : Version) : v.render.toList
    = Nat.toDigits 10 v.major ++ '.' :: (Nat.toDigits 10 v.minor ++ '.' :: Nat.toDigits 10 v.patch) := by
  simp [Version.render, Version.parts]

theorem readVersion_of_short {digits : Text × Text × Text}
    (h : ∀ row ∈ digitRowsOf digits, row.length ≤ 4300) :
    readVersion digits
      = .ok ⟨natOfDigits digits.1, natOfDigits digits.2.1, natOfDigits digits.2.2⟩ := by
  have hshort (row : Text) (hrow : row ∈ digitRowsOf digits) :
      readNumber row = .ok (natOfDigits row) :=
    readNumber_of_short (Nat.not_lt.2 (h row hrow))
  rw [readVersion, hshort digits.1 (by simp [digitRowsOf]), hshort digits.2.1 (by simp [digitRowsOf]),
    hshort digits.2.2 (by simp [digitRowsOf])]
  rfl

/-- The digits of the numbers of a version are read as that version. -/
theorem readVersion_toDigits {v : Version} (h : v.IsShort) :
    readVersion (Nat.toDigits 10 v.major, Nat.toDigits 10 v.minor, Nat.toDigits 10 v.patch) = .ok v := by
  rw [readVersion_of_short]
  · simp only [natOfDigits_toDigits]
  · intro row hrow
    have hrows : row ∈ v.parts.map (Nat.toDigits 10) := hrow
    obtain ⟨n, hn, rfl⟩ := List.mem_map.1 hrows
    exact h n hn

/-- Without a third row the last number is zero. -/
theorem readVersion_two {v : Version} (h : v.IsShort) :
    readVersion (Nat.toDigits 10 v.major, Nat.toDigits 10 v.minor, []) = .ok { v with patch := 0 } := by
  rw [readVersion_of_short]
  · simp only [natOfDigits_toDigits]
    rfl
  · intro row hrow
    have hrows : row = Nat.toDigits 10 v.major ∨ row = Nat.toDigits 10 v.minor ∨ row = [] := by
      simpa [digitRowsOf] using hrow
    rcases hrows with rfl | rfl | rfl
    · exact h v.major (by simp [Version.parts])
    · exact h v.minor (by simp [Version.parts])
    · exact Nat.zero_le _

theorem isShort_of_readVersion {digits : Text × Text × Text} {v : Version}
    (h : readVersion digits = .ok v) : v.IsShort := by
  have hrows : ∀ row ∈ digitRowsOf digits, row.length ≤ 4300 := by
    intro row hrow
    by_contra hlong
    have hsome : (((digitRowsOf digits).map List.length).find?
        fun length => decide (4300 < length)).isSome = true := by
      rw [List.find?_isSome]
      exact ⟨row.length, List.mem_map_of_mem hrow, by simpa using hlong⟩
    obtain ⟨n, hn⟩ := Option.isSome_iff_exists.1 hsome
    rw [readVersion_eq_error_iff.2 ⟨n, rfl, hn⟩] at h
    cases h
  rw [readVersion_of_short hrows] at h
  cases h
  intro n hn
  have hparts : n ∈ (digitRowsOf digits).map natOfDigits := hn
  obtain ⟨row, hrow, rfl⟩ := List.mem_map.1 hparts
  exact length_toDigits_natOfDigits_le (by decide) (hrows row hrow)

theorem isDigit_toDigits {n : Nat} : ∀ c ∈ Nat.toDigits 10 n, isDigit c = true :=
  fun _ hc => isDigit_of_ascii (isDigit_of_mem_decimal hc)

/-- A version with three numbers, up to a character that is no digit. -/
theorem startsVersion_render (v : Version) {rest : Text} (hrest : rest.head?.any isDigit = false) :
    StartsVersion (Nat.toDigits 10 v.major, Nat.toDigits 10 v.minor, Nat.toDigits 10 v.patch)
      (v.render.toList ++ rest) := by
  refine ⟨'.' :: (Nat.toDigits 10 v.patch ++ rest), ?_, Nat.toDigits_ne_nil, Nat.toDigits_ne_nil, ?_, ?_,
    .inl ⟨rest, rfl, hrest⟩⟩
  · simp [v.toList_render]
  · exact forall_isDigit_digitRowsOf.2 ⟨isDigit_toDigits, isDigit_toDigits, isDigit_toDigits⟩
  · show isDigit '.' = false
    decide

/-- A version with two numbers, up to a character that is no digit and does not start a third number. -/
theorem startsVersion_two (a b : Nat) {rest : Text} (hrest : rest.head?.any isDigit = false)
    (hthird : rest.head? = some '.' → rest.tail.head?.any isDigit = false) :
    StartsVersion (Nat.toDigits 10 a, Nat.toDigits 10 b, [])
      (Nat.toDigits 10 a ++ '.' :: (Nat.toDigits 10 b ++ rest)) := by
  refine ⟨rest, rfl, Nat.toDigits_ne_nil, Nat.toDigits_ne_nil, ?_, hrest, ?_⟩
  · exact forall_isDigit_digitRowsOf.2 ⟨isDigit_toDigits, isDigit_toDigits, by simp⟩
  · by_cases hpoint : rest.head? = some '.'
    · obtain ⟨after, rfl⟩ := List.head?_eq_some_iff.1 hpoint
      exact .inl ⟨after, rfl, hthird hpoint⟩
    · exact .inr ⟨hpoint, rfl⟩

/-! ### Passing over what stands in front -/

section Skip

variable {α : Type} {here? : Text → Option α}

theorem firstAt?_of_here {s : Text} {a : α} (hne : s ≠ []) (h : here? s = some a) :
    firstAt? here? s = some a := by
  obtain ⟨c, s, rfl⟩ := List.exists_cons_of_ne_nil hne
  rw [firstAt?_cons, h, Option.some_or]

/-- A search passes over a text inside of which its test gives nothing. -/
theorem firstAt?_append {front s : Text}
    (h : ∀ t, t ≠ [] → t <:+ front → here? (t ++ s) = none) :
    firstAt? here? (front ++ s) = firstAt? here? s := by
  induction front with
  | nil => rfl
  | cons c front ih =>
    have hhere : here? (c :: (front ++ s)) = none :=
      h (c :: front) (List.cons_ne_nil c front) (List.suffix_refl _)
    rw [List.cons_append, firstAt?_cons, hhere, Option.none_or]
    apply ih
    intro t ht hsuffix
    exact h t ht (hsuffix.trans (List.suffix_cons c front))

end Skip

/-- **The search for a version** passes over everything without digits. -/
theorem firstVersion?_append {front : Text} (hfront : ∀ c ∈ front, isDigit c = false) (s : Text) :
    firstVersion? (front ++ s) = firstVersion? s := by
  apply firstAt?_append
  intro t ht hsuffix
  obtain ⟨c, t, rfl⟩ := List.exists_cons_of_ne_nil ht
  have hc : isDigit c = false := hfront c (hsuffix.subset List.mem_cons_self)
  simp [versionDigits?, hc]

theorem firstVersion?_of_startsVersion {s : Text} {digits : Text × Text × Text}
    (h : StartsVersion digits s) : firstVersion? s = some digits := by
  apply firstAt?_of_here
  · intro hnil
    obtain ⟨rest, rfl, hmajor, -⟩ := h
    exact hmajor (List.append_eq_nil_iff.1 hnil).1
  · exact (versionDigits?_eq_some_iff digits s).2 h

/-- A word that does not repeat its first letter does not start in a text without it, also if the text runs
into the word. -/
theorem not_prefix_append {c : Char} {word t rest : Text} (hc : c ∉ word) (ht : t ≠ [])
    (hnot : ¬ c :: word <:+: t) : ¬ c :: word <+: t ++ (c :: word ++ rest) := by
  intro hprefix
  obtain ⟨d, t, rfl⟩ := List.exists_cons_of_ne_nil ht
  rw [List.cons_append, List.cons_prefix_cons] at hprefix
  obtain ⟨rfl, hword⟩ := hprefix
  -- the word and the text up to the letter are both fronts of the same text
  have hletter : t ++ [c] <+: t ++ (c :: word ++ rest) :=
    (List.prefix_append_right_inj t).2 ⟨word ++ rest, rfl⟩
  rcases List.prefix_or_prefix_of_prefix hword hletter with hshort | hlong
  · rcases List.prefix_concat_iff.1 hshort with heq | hinside
    · exact hc (by rw [heq]; simp)
    · exact hnot ((List.cons_prefix_cons.2 ⟨rfl, hinside⟩).isInfix)
  · exact hc (hlong.subset (by simp))

theorem pragmaBody?_eq_none {s : Text} (h : ¬ "pragma".toList <+: s) : pragmaBody? s = none := by
  rw [Option.eq_none_iff_forall_ne_some]
  intro body hbody
  obtain ⟨gap, rest, rfl, -⟩ := (pragmaBody?_eq_some_iff body s).1 hbody
  exact h (List.prefix_append _ _)

/-- **The search for a pragma** passes over a text without the word. -/
theorem firstPragma?_append {pre : Text} (hpre : ¬ "pragma".toList <:+: pre) (rest : Text) :
    firstPragma? (pre ++ ("pragma".toList ++ rest)) = firstPragma? ("pragma".toList ++ rest) := by
  apply firstAt?_append
  intro t ht hsuffix
  apply pragmaBody?_eq_none
  show ¬ 'p' :: "ragma".toList <+: t ++ ('p' :: "ragma".toList ++ rest)
  apply not_prefix_append (by decide) ht
  intro hwithin
  exact hpre (hwithin.trans hsuffix.isInfix)

/-! ### The version that a pragma names -/

/-- What may stand in front of the version that the first pragma of a source names: a text without the word
`pragma`; that word and the word `solidity`, with blanks behind each of them; and a text without digits and
semicolons. -/
def LeadsToVersion (lead : Text) : Prop :=
  ∃ pre gap space op,
    lead = pre ++ ("pragma".toList ++ (gap ++ ("solidity".toList ++ (space ++ op)))) ∧
      ¬ "pragma".toList <:+: pre ∧ IsGap gap ∧ IsGap space ∧ ∀ c ∈ op, isDigit c = false ∧ c ≠ ';'

/-- What the first pragma says, behind such a text. -/
theorem firstPragma?_lead {lead said rest : Text} (h : LeadsToVersion lead) (hsaid : said ≠ [])
    (hsaid' : ';' ∉ said) (hrest : rest = [] ∨ rest.head? = some ';') :
    ∃ quiet, (∀ c ∈ quiet, isDigit c = false) ∧
      firstPragma? (lead ++ (said ++ rest)) = some (quiet ++ said) := by
  obtain ⟨pre, gap, space, op, rfl, hpre, hgap, hspace, hop⟩ := h
  refine ⟨space ++ op, ?_, ?_⟩
  · intro c hc
    rcases List.mem_append.1 hc with hc | hc
    · exact isDigit_of_isBlank (hspace.2 c hc)
    · exact (hop c hc).1
  · have hplace : StartsPragma (space ++ op ++ said)
        ("pragma".toList ++ (gap ++ ("solidity".toList ++ (space ++ op ++ said ++ rest)))) := by
      refine ⟨gap, rest, rfl, hgap.1, hgap.2, ?_, ?_, hrest⟩
      · obtain ⟨d, more, rfl, hd⟩ := hspace.exists_cons
        have hne : more ++ op ++ said ≠ [] := by simp [hsaid]
        obtain ⟨c, others, hcons⟩ := List.exists_cons_of_ne_nil hne
        exact ⟨d, c, others, congrArg (d :: ·) hcons, hd⟩
      · intro hmem
        rcases List.mem_append.1 hmem with hmem | hmem
        · rcases List.mem_append.1 hmem with hmem | hmem
          · exact absurd (hspace.2 ';' hmem) (by decide)
          · exact (hop ';' hmem).2 rfl
        · exact hsaid' hmem
    have hfound := (pragmaBody?_eq_some_iff _ _).2 hplace
    simp only [List.append_assoc] at hfound ⊢
    rw [firstPragma?_append hpre]
    exact firstAt?_of_here (by simp) hfound

/-- **The version behind a lead is read.**  What follows it only counts up to the next semicolon. -/
theorem pragmaVersion_lead {lead written rest : Text} {digits : Text × Text × Text}
    (h : LeadsToVersion lead) (hwritten : ';' ∉ written)
    (hversion : StartsVersion digits (written ++ rest.takeWhile (· != ';'))) :
    pragmaVersion (lead ++ (written ++ rest)) = (readVersion digits).map some := by
  have hsaid : written ++ rest.takeWhile (· != ';') ≠ [] := by
    intro hnil
    rw [hnil] at hversion
    obtain ⟨later, hcut, -⟩ := hversion
    simp at hcut
  have hsaid' : ';' ∉ written ++ rest.takeWhile (· != ';') := by
    intro hmem
    rcases List.mem_append.1 hmem with hmem | hmem
    · exact hwritten hmem
    · have hstop := List.all_eq_true.1 List.all_takeWhile ';' hmem
      simp at hstop
  have hrest := head?_any_bne_eq_false_iff.1 (head?_dropWhile_any (· != ';') rest)
  obtain ⟨quiet, hquiet, hpragma⟩ := firstPragma?_lead h hsaid hsaid' hrest
  rw [List.append_assoc, List.takeWhile_append_dropWhile] at hpragma
  rw [pragmaVersion, hpragma]
  show findVersion (quiet ++ _) = _
  rw [findVersion, firstVersion?_append hquiet, firstVersion?_of_startsVersion hversion]

theorem head?_takeWhile_any {p q : Char → Bool} {s : Text} (h : s.head?.any p = false) :
    (s.takeWhile q).head?.any p = false := by
  cases s with
  | nil => rfl
  | cons c s =>
    rw [List.takeWhile_cons]
    split
    · exact h
    · rfl

theorem semicolon_not_mem_toDigits (n : Nat) : ';' ∉ Nat.toDigits 10 n :=
  fun h => absurd (isDigit_of_mem_decimal h) (by decide)

/-- A version with three numbers behind a lead. -/
theorem pragmaVersion_render {lead rest : Text} (h : LeadsToVersion lead) {v : Version}
    (hv : v.IsShort) (hrest : rest.head?.any isDigit = false) :
    pragmaVersion (lead ++ (v.render.toList ++ rest)) = .ok (some v) := by
  have hwritten : ';' ∉ v.render.toList := by
    simp [v.toList_render, semicolon_not_mem_toDigits]
  rw [pragmaVersion_lead h hwritten (startsVersion_render v (head?_takeWhile_any hrest)),
    readVersion_toDigits hv]
  rfl

/-- A version with two numbers behind a lead. -/
theorem pragmaVersion_two {lead rest : Text} (h : LeadsToVersion lead) {v : Version}
    (hv : v.IsShort) (hrest : rest.head?.any isDigit = false)
    (hthird : rest.head? = some '.' → rest.tail.head?.any isDigit = false) :
    pragmaVersion (lead ++ (Nat.toDigits 10 v.major ++ '.' :: Nat.toDigits 10 v.minor ++ rest))
      = .ok (some { v with patch := 0 }) := by
  have hwritten : ';' ∉ Nat.toDigits 10 v.major ++ '.' :: Nat.toDigits 10 v.minor := by
    simp [semicolon_not_mem_toDigits]
  have hthird' : (rest.takeWhile (· != ';')).head? = some '.' →
      (rest.takeWhile (· != ';')).tail.head?.any isDigit = false := by
    intro hpoint
    cases rest with
    | nil => rfl
    | cons c rest =>
      rw [List.takeWhile_cons] at hpoint ⊢
      split at hpoint
      · rename_i hc
        rw [if_pos hc]
        exact head?_takeWhile_any (hthird hpoint)
      · cases hpoint
  have hstarts := startsVersion_two v.major v.minor (head?_takeWhile_any hrest) hthird'
  rw [pragmaVersion_lead h hwritten (by simpa using hstarts), readVersion_two hv]
  rfl

/-! ### Versions that were read -/

/-- A version in a text without other digits in front of it. -/
theorem parseVersion_append {front rest : String} (hfront : ∀ c ∈ front.toList, isDigit c = false)
    {v : Version} (hv : v.IsShort) (hrest : rest.toList.head?.any isDigit = false) :
    parseVersion (front ++ v.render ++ rest) = .ok v := by
  have hfirst : firstVersion? (front ++ v.render ++ rest).toList
      = some (Nat.toDigits 10 v.major, Nat.toDigits 10 v.minor, Nat.toDigits 10 v.patch) := by
    rw [String.toList_append, String.toList_append, List.append_assoc, firstVersion?_append hfront]
    exact firstVersion?_of_startsVersion (startsVersion_render v hrest)
  rw [parseVersion, hfirst]
  exact readVersion_toDigits hv

/-- **The dotted form of a version is read as that version.** -/
theorem parseVersion_render {v : Version} (hv : v.IsShort) : parseVersion v.render = .ok v := by
  have hread : parseVersion ("" ++ v.render ++ "") = .ok v := parseVersion_append (by simp) hv rfl
  simpa using hread

/-- The version that a source names can be written and read again. -/
theorem isShort_of_pragmaVersion {source : Text} {v : Version}
    (h : pragmaVersion source = .ok (some v)) : v.IsShort := by
  rw [pragmaVersion] at h
  split at h
  · cases h
  · rw [findVersion] at h
    split at h
    · cases h
    · rename_i digits _
      cases hread : readVersion digits with
      | error failure =>
        rw [hread] at h
        cases h
      | ok u =>
        rw [hread] at h
        cases h
        exact isShort_of_readVersion hread

end ContractAudit.Source
