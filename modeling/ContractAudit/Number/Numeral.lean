import ContractAudit.Text.Basic

/-!
# Whole numbers in strings

A whole number may come as a string.  Its plain form is a minus sign or none and then a zero or
digits that do not start with one.  What is not plain is cleaned once: blanks around it, a plus
sign, zeros in front of the digits, a fraction of zeros and single underscores go away.

Numbers of more than 4300 digits are neither read nor written.

* `Numeral.digits`, `Numeral.isWritable` -- a number in digits, and whether they are few enough;
* `Numeral.plain` -- the number that a plain form writes;
* `Numeral.clean?` -- a string cleaned;
* `Numeral.read` -- the number that a string writes.
-/

namespace ContractAudit

/-- Why a string writes no whole number: it is not understood, or it is too long. -/
inductive NumeralFault where
  | unreadable
  | oversized
  deriving DecidableEq, Repr

namespace Numeral

/-- The greatest number of digits with which a number is read or written. -/
def digitLimit : Nat := 4300

/-! ### Writing -/

/-- A whole number in digits, after a minus sign if it is below zero. -/
def digits (n : Int) : Text :=
  (toString n).toList

/-- Whether the digits of a whole number are few enough for it to be written. -/
def isWritable (n : Int) : Bool :=
  decide ((Nat.toDigits 10 n.natAbs).length ≤ digitLimit)

/-! ### Plain forms -/

/-- The number that a row of ASCII digits writes. -/
def ofDigits (s : Text) : Nat :=
  s.foldl (fun n c => 10 * n + (c.toNat - 48)) 0

/-- The number that a plain form writes.  A row of digits that is too long is not read to its end,
so it does not matter what follows it. -/
def plain (s : Text) : Except NumeralFault Int :=
  let negative := s.head? = some '-'
  let body := if negative then s.drop 1 else s
  let digits := body.takeWhile Char.isDigit
  if digits.isEmpty ∨ (digits.head? = some '0' ∧ digits.length ≠ 1) then .error .unreadable
  else if digitLimit < digits.length then .error .oversized
  else if digits.length < body.length then .error .unreadable
  else .ok (if negative then -(ofDigits digits : Int) else ofDigits digits)

/-! ### Cleaning -/

/-- The blanks that may surround a number. -/
def isNumberBlank (c : Char) : Bool :=
  let n := c.toNat
  (decide (0x09 ≤ n) && decide (n ≤ 0x0D)) || n == 0x20 || n == 0x85 || n == 0xA0 || n == 0x1680
    || (decide (0x2000 ≤ n) && decide (n ≤ 0x200A)) || n == 0x2028 || n == 0x2029 || n == 0x202F
    || n == 0x205F || n == 0x3000

/-- The text without the blanks around it. -/
def trimmed (s : Text) : Text :=
  ((s.dropWhile isNumberBlank).reverse.dropWhile isNumberBlank).reverse

/-- The text without a plus sign in front; a second sign may not follow. -/
def dropPlus? : Text → Option Text
  | '+' :: '-' :: _ => none
  | '+' :: s => some s
  | s => some s

/-- The text after zeros, of which `last` is the last: further zeros and underscores are passed, up
to another digit or a minus sign.  In front of a point and at the end one character is kept. -/
def passZeros (last : Char) : Text → Option Text
  | [] => some [last]
  | c :: s =>
    if c = '0' ∨ c = '_' then passZeros c s
    else if c = '-' ∨ c.isDigit then some (c :: s)
    else if c = '.' then some (last :: c :: s)
    else none

/-- The text without zeros in front; it has to start with a digit or a minus sign. -/
def dropZeros? : Text → Option Text
  | [] => none
  | c :: s =>
    if c = '0' then passZeros c s
    else if c = '-' ∨ c.isDigit then some (c :: s)
    else none

/-- The text without zeros in front of its digits, which may follow a minus sign. -/
def dropSignedZeros? : Text → Option Text
  | '-' :: s => (dropZeros? s).map fun rest => '-' :: rest
  | s => dropZeros? s

/-- The text without a fraction that consists of zeros. -/
def dropZeroFraction (s : Text) : Text :=
  match s.dropWhile (· != '.') with
  | _ :: d :: ds => if (d :: ds).all (· == '0') then s.takeWhile (· != '.') else s
  | _ => s

/-- The text without underscores, if each of them stands alone and none at an end. -/
def dropUnderscores (s : Text) : Text :=
  if s.head? = some '_' ∨ s.getLast? = some '_' ∨ Text.includes ['_', '_'] s then s
  else s.filter (· != '_')

/-- The text without everything that a plain form does not have. -/
def clean? (s : Text) : Option Text :=
  ((dropPlus? (trimmed s)).bind dropSignedZeros?).map fun s =>
    dropUnderscores (dropZeroFraction s)

/-- The number that a string writes. -/
def read (s : Text) : Except NumeralFault Int :=
  match plain s, clean? s with
  | .error .unreadable, some cleaned => plain cleaned
  | outcome, _ => outcome

end Numeral

end ContractAudit
