import ContractAudit.Json.Printer
import ContractAudit.Json.Reader

/-!
# Printed strings

Inside a printed string a character is itself, a short escape, one unit of sixteen bits or a pair of
them.  Each of the four reads back as that character and leaves the text behind it alone, so that a
printed string reads back as a whole.

* `readHex?_hexDigits` -- four hexadecimal digits read back;
* `readString_escapeUnit`, `readString_escapePair` -- one unit, and a surrogate pair;
* `readString_escape` -- one character, whatever its escape;
* `exists_body_printString` -- a string up to its closing quote;
* `isAscii_printString` -- a printed string is ASCII.
-/

namespace ContractAudit

open ContractAudit.Text

/-! ### Hexadecimal digits -/

theorem hexValue?_hexDigit {d : Nat} (h : d < 16) : hexValue? (hexDigit d) = some d := by
  have hall : ∀ d, d < 16 → hexValue? (hexDigit d) = some d := by decide
  exact hall d h

theorem readHex?_hexDigits {n : Nat} (h : n < 0x10000) : readHex? (hexDigits 4 n) = some n := by
  have hdigit (m : Nat) : hexValue? (hexDigit (m % 16)) = some (m % 16) :=
    hexValue?_hexDigit (Nat.mod_lt m (by decide))
  have hvalue : 16 * (16 * (16 * (16 * 0 + n / 16 / 16 / 16 % 16) + n / 16 / 16 % 16) + n / 16 % 16)
      + n % 16 = n := by
    omega
  simp only [hexDigits, readHex?, List.nil_append, List.cons_append, List.foldl_cons,
    List.foldl_nil, hdigit, Option.bind_some, Option.map_some, hvalue]

namespace Json

/-! ### Units of sixteen bits -/

/-- One more character in front of what was read. -/
def readAlso (c : Char) (read : Option (Text × Text)) : Option (Text × Text) :=
  read.map fun p => (c :: p.1, p.2)

theorem isHighUnit_iff {n : Nat} : isHighUnit n = true ↔ 0xD800 ≤ n ∧ n < 0xDC00 := by
  simp [isHighUnit]

theorem isLowUnit_iff {n : Nat} : isLowUnit n = true ↔ 0xDC00 ≤ n ∧ n < 0xE000 := by
  simp [isLowUnit]

theorem readString_escapeUnit {n : Nat} (hn : n < 0x10000) (hhigh : isHighUnit n = false)
    (hlow : isLowUnit n = false) (s : Text) :
    readString (escapeUnit n ++ s) = readAlso (Char.ofNat n) (readString s) := by
  have hread := readHex?_hexDigits hn
  simp only [hexDigits, List.nil_append, List.cons_append] at hread
  simp only [escapeUnit, hexDigits, List.nil_append, List.cons_append, readString, hread, hhigh,
    hlow, Bool.false_eq_true, if_false]
  rfl

theorem readString_escapePair {high low : Nat} (hhigh : isHighUnit high = true)
    (hlow : isLowUnit low = true) (s : Text) :
    readString (escapeUnit high ++ escapeUnit low ++ s)
      = readAlso (pairedChar high low) (readString s) := by
  have hbounds : high < 0x10000 ∧ low < 0x10000 := by
    have hhigh := isHighUnit_iff.1 hhigh
    have hlow := isLowUnit_iff.1 hlow
    omega
  have hreadHigh := readHex?_hexDigits hbounds.1
  have hreadLow := readHex?_hexDigits hbounds.2
  simp only [hexDigits, List.nil_append, List.cons_append] at hreadHigh hreadLow
  simp only [escapeUnit, hexDigits, List.nil_append, List.cons_append, readString, hreadHigh,
    hreadLow, hhigh, hlow, if_true]
  rfl

/-! ### Characters -/

theorem toNat_lt (c : Char) : c.toNat < 0x110000 := by
  have hvalid : c.toNat < 0xD800 ∨ (0xDFFF < c.toNat ∧ c.toNat < 0x110000) := c.valid
  omega

/-- No character is half of a surrogate pair. -/
theorem not_unit_toNat (c : Char) : isHighUnit c.toNat = false ∧ isLowUnit c.toNat = false := by
  have hvalid : c.toNat < 0xD800 ∨ (0xDFFF < c.toNat ∧ c.toNat < 0x110000) := c.valid
  rw [← Bool.not_eq_true, ← Bool.not_eq_true, isHighUnit_iff, isLowUnit_iff]
  omega

/-- The first unit of a character outside the first plane. -/
def highUnit (c : Char) : Nat := 0xD800 + (c.toNat - 0x10000) / 0x400

/-- The second unit of a character outside the first plane. -/
def lowUnit (c : Char) : Nat := 0xDC00 + (c.toNat - 0x10000) % 0x400

theorem isHighUnit_highUnit (c : Char) : isHighUnit (highUnit c) = true := by
  have hlt := toNat_lt c
  rw [isHighUnit_iff, highUnit]
  omega

theorem isLowUnit_lowUnit (c : Char) : isLowUnit (lowUnit c) = true := by
  rw [isLowUnit_iff, lowUnit]
  omega

theorem pairedChar_units {c : Char} (h : 0x10000 ≤ c.toNat) :
    pairedChar (highUnit c) (lowUnit c) = c := by
  have hvalue : 0x10000 + (highUnit c - 0xD800) * 0x400 + (lowUnit c - 0xDC00) = c.toNat := by
    simp only [highUnit, lowUnit]
    omega
  rw [pairedChar, hvalue, Char.ofNat_toNat]

/-- **The four forms of a character** inside a printed string. -/
theorem escape_cases (c : Char) :
    (∃ d, escape c = ['\\', d] ∧ shortEscape? d = some c ∧ d ≠ 'u' ∧ d.toNat < 128) ∨
    (escape c = [c] ∧ c ≠ '"' ∧ c ≠ '\\' ∧ 32 ≤ c.toNat ∧ c.toNat < 128) ∨
    (escape c = escapeUnit c.toNat ∧ c.toNat < 0x10000) ∨
    (escape c = escapeUnit (highUnit c) ++ escapeUnit (lowUnit c) ∧ 0x10000 ≤ c.toNat) := by
  unfold escape
  -- the seven short escapes come first
  iterate 7
    split
    · subst c
      exact .inl ⟨_, rfl, rfl, by decide, by decide⟩
  split
  · rename_i hquote hslash _ _ _ _ _ hplain
    exact .inr (.inl ⟨rfl, hquote, hslash, hplain.1, by omega⟩)
  split
  · rename_i hfirst
    exact .inr (.inr (.inl ⟨rfl, hfirst⟩))
  · rename_i hbeyond
    exact .inr (.inr (.inr ⟨rfl, Nat.le_of_not_lt hbeyond⟩))

theorem readString_shortEscape {c d : Char} (h : shortEscape? d = some c) (hu : d ≠ 'u')
    (s : Text) : readString ('\\' :: d :: s) = readAlso c (readString s) := by
  rw [readString, h]
  · rfl
  · intro _ _ _ _ _ heq
    exact absurd heq hu

theorem readString_plain {c : Char} (hquote : c ≠ '"') (hslash : c ≠ '\\') (hc : 32 ≤ c.toNat)
    (s : Text) : readString (c :: s) = readAlso c (readString s) := by
  rw [readString, if_neg (by omega)]
  · rfl
  · exact hquote
  · intro _ _ _ _ _ heq
    exact absurd heq hslash
  · intro _ _ heq
    exact absurd heq hslash
  · intro heq
    exact absurd heq hslash

/-- **An escaped character reads back.** -/
theorem readString_escape (c : Char) (s : Text) :
    readString (escape c ++ s) = readAlso c (readString s) := by
  rcases escape_cases c with ⟨d, hform, hshort, hu, -⟩ | ⟨hform, hquote, hslash, hprintable, -⟩
    | ⟨hform, hfirst⟩ | ⟨hform, hbeyond⟩
  · rw [hform]
    exact readString_shortEscape hshort hu s
  · rw [hform]
    exact readString_plain hquote hslash hprintable s
  · rw [hform, readString_escapeUnit hfirst (not_unit_toNat c).1 (not_unit_toNat c).2,
      Char.ofNat_toNat]
  · rw [hform, readString_escapePair (isHighUnit_highUnit c) (isLowUnit_lowUnit c),
      pairedChar_units hbeyond]

/-! ### Strings -/

theorem readString_flatMap_escape (cs s : Text) :
    readString (cs.flatMap escape ++ '"' :: s) = some (cs, s) := by
  induction cs with
  | nil => rfl
  | cons c cs ih =>
    rw [List.flatMap_cons, List.append_assoc, readString_escape, ih]
    rfl

/-- **A printed string reads back**, behind its opening quote. -/
theorem exists_body_printString (text : String) (s : Text) :
    ∃ body, printString text ++ s = '"' :: body ∧ readString body = some (text.toList, s) := by
  refine ⟨text.toList.flatMap escape ++ '"' :: s, ?_, readString_flatMap_escape _ _⟩
  simp [printString]

/-! ### ASCII -/

/-- All characters are ASCII. -/
def IsAscii (s : Text) : Prop :=
  ∀ c ∈ s, c.toNat < 128

@[simp]
theorem isAscii_nil : IsAscii [] :=
  List.forall_mem_nil _

@[simp]
theorem isAscii_cons {c : Char} {s : Text} : IsAscii (c :: s) ↔ c.toNat < 128 ∧ IsAscii s :=
  List.forall_mem_cons

@[simp]
theorem isAscii_append {s t : Text} : IsAscii (s ++ t) ↔ IsAscii s ∧ IsAscii t :=
  List.forall_mem_append

@[simp]
theorem isAscii_hexDigits (width n : Nat) : IsAscii (hexDigits width n) := by
  have hall : ∀ d, d < 16 → (hexDigit d).toNat < 128 := by decide
  induction width generalizing n with
  | zero => exact isAscii_nil
  | succ width ih =>
    have hlast := hall (n % 16) (Nat.mod_lt n (by decide))
    simp [hexDigits, ih, hlast]

@[simp]
theorem isAscii_escapeUnit (n : Nat) : IsAscii (escapeUnit n) := by
  simp [escapeUnit]

theorem isAscii_escape (c : Char) : IsAscii (escape c) := by
  rcases escape_cases c with ⟨d, hform, -, -, hd⟩ | ⟨hform, -, -, -, hc⟩ | ⟨hform, -⟩ | ⟨hform, -⟩
  · simp [hform, hd]
  · simp [hform, hc]
  · simp [hform]
  · simp [hform]

@[simp]
theorem isAscii_printString (s : String) : IsAscii (printString s) := by
  have hbody : IsAscii (s.toList.flatMap escape) := by
    intro x hx
    obtain ⟨c, -, hc⟩ := List.mem_flatMap.1 hx
    exact isAscii_escape c x hc
  simp [printString, hbody]

end Json

end ContractAudit
