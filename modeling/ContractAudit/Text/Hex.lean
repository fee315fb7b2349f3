import ContractAudit.Text.Basic

/-!
# Hexadecimal digits

Escapes write a code point with a fixed number of lower case hexadecimal digits.

* `hexDigit`, `hexDigits` -- writing;
* `hexValue?`, `readHex?` -- reading, in either case of the letters.
-/

namespace ContractAudit.Text

/-- The lower case hexadecimal digit of a number below sixteen. -/
def hexDigit (n : Nat) : Char :=
  if n < 10 then Char.ofNat (48 + n) else Char.ofNat (87 + n)

/-- The last `width` hexadecimal digits of a number. -/
def hexDigits : (width : Nat) → Nat → Text
  | 0, _ => []
  | width + 1, n => hexDigits width (n / 16) ++ [hexDigit (n % 16)]

/-- The value of a hexadecimal digit. -/
def hexValue? (c : Char) : Option Nat :=
  let n := c.toNat
  if 48 ≤ n ∧ n ≤ 57 then some (n - 48)
  else if 97 ≤ n ∧ n ≤ 102 then some (n - 87)
  else if 65 ≤ n ∧ n ≤ 70 then some (n - 55)
  else none

/-- The number written by a row of hexadecimal digits, when all of them are. -/
def readHex? (s : Text) : Option Nat :=
  s.foldl (fun acc c => acc.bind fun n => (hexValue? c).map fun d => 16 * n + d) (some 0)

end ContractAudit.Text
