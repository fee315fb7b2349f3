import ContractAudit.Number.Binary64

/-!
# The shortest decimal

A binary number is shown with as few decimal digits as tell it apart from all others: of the decimal
numbers with the least number of digits that are held as this one, the nearest.

* `Binary64.shortest` -- the digits and the power of ten of the shortest decimal;
* `Binary64.display` -- a binary number as it stands in running text.

A decimal number with a given number of digits that is held as a binary one lies next to it on the
grid of such decimals, or a neighbour that is nearer does; so only the two neighbours are tried.
-/

namespace ContractAudit.Binary64

/-! ### Digits -/

/-- The number of zeros between the point and the first digit of a quotient below one. -/
def leadingZeros : (bound : Nat) → Ratio → Nat
  | 0, _ => 0
  | bound + 1, (n, d) => if d ≤ 10 * n then 0 else leadingZeros bound (10 * n, d) + 1

/-- The place of the first digit of a quotient: the quotient is below ten to the power of this
number, and not below a tenth of that. -/
def firstPlace (r : Ratio) : Int :=
  if r.floor = 0 then -(leadingZeros 400 r : Int) else (Nat.toDigits 10 r.floor).length

/-- The neighbour of a number on the grid of decimals with `count` digits that is held as this
number; the nearer one if both are. -/
def neighbour? (mantissa : Nat) (exponent : Int) (count : Nat) : Option (Nat × Int) :=
  let value := Ratio.scale 2 exponent (mantissa, 1)
  let power := firstPlace value - count
  let r := value.scale 10 (-power)
  let isHeld (n : Nat) := decide (ofDecimal false n power = finite false mantissa exponent)
  match isHeld r.floor, isHeld (r.floor + 1) with
  | true, true => some (r.nearest, power)
  | true, false => some (r.floor, power)
  | false, true => some (r.floor + 1, power)
  | false, false => none

/-- The shortest decimal that is held as a number: digits, and the power of ten that they are
multiplied with.  Seventeen digits are always enough. -/
def shortest (mantissa : Nat) (exponent : Int) : Nat × Int :=
  ((List.range 17).findSome? fun n => neighbour? mantissa exponent (n + 1)).getD (0, 0)

/-! ### Text -/

/-- Digits without the zeros at their end. -/
def significant (digits : List Char) : List Char :=
  (digits.reverse.dropWhile (· == '0')).reverse

/-- Digits with a point `place` digits after their beginning.  With a first digit that stands for at
most `10^15` and at least `10^-4` the number is written out, otherwise with an exponent of at least
two digits. -/
def placePoint (digits : List Char) (place : Int) : List Char :=
  if -4 < place ∧ place ≤ 16 then
    if place ≤ 0 then
      "0.".toList ++ List.replicate (-place).toNat '0' ++ digits
    else if digits.length ≤ place.toNat then
      digits ++ List.replicate (place.toNat - digits.length) '0' ++ ".0".toList
    else
      digits.take place.toNat ++ '.' :: digits.drop place.toNat
  else
    let power := Nat.toDigits 10 (place - 1).natAbs
    digits.take 1 ++ (if digits.length = 1 then [] else '.' :: digits.drop 1)
      ++ ['e', if place - 1 < 0 then '-' else '+']
      ++ List.replicate (2 - power.length) '0' ++ power

/-- A binary number as it stands in running text. -/
def display : Binary64 → String
  | finite negative mantissa exponent =>
    let sign := if negative then "-" else ""
    if mantissa = 0 then sign ++ "0.0"
    else
      let (number, power) := shortest mantissa exponent
      let digits := Nat.toDigits 10 number
      sign ++ String.ofList (placePoint (significant digits) (power + digits.length))
  | infinite negative => if negative then "-inf" else "inf"
  | undefined => "nan"

end ContractAudit.Binary64
