/-!
# Binary numbers

A number that is written with a point or an exponent is held with 53 binary digits and an exponent
of limited size, like the numbers of a processor.  What is written need not be such a number; it is
then held as the nearest one, and of two equally near as the one whose last digit is even.

* `Binary64` -- the numbers, the two infinities and the value that is no number;
* `Binary64.ofRatio` -- the number nearest to a quotient;
* `Binary64.ofDecimal` -- the number nearest to a decimal one;
* `Binary64.whole?` -- the value of a number, if it is whole.
-/

namespace ContractAudit

/-! ### Quotients -/

/-- A quotient of natural numbers: the numerator and the denominator. -/
abbrev Ratio := Nat × Nat

namespace Ratio

/-- A quotient times a power of a base; the power may be negative. -/
def scale (base : Nat) (power : Int) (r : Ratio) : Ratio :=
  if 0 ≤ power then (r.1 * Nat.pow base power.toNat, r.2)
  else (r.1, r.2 * Nat.pow base (-power).toNat)

/-- The largest natural number that is not above a quotient. -/
def floor (r : Ratio) : Nat := r.1 / r.2

/-- The natural number nearest to a quotient; of two equally near the even one. -/
def nearest (r : Ratio) : Nat :=
  let rest := r.1 % r.2
  if r.2 < 2 * rest ∨ (2 * rest = r.2 ∧ r.floor % 2 = 1) then r.floor + 1 else r.floor

end Ratio

/-! ### Binary numbers -/

/-- A binary number.  A finite one is `mantissa` times `2^exponent`, with its sign; zero has one as
well. -/
inductive Binary64 where
  | finite (negative : Bool) (mantissa : Nat) (exponent : Int)
  | infinite (negative : Bool)
  | undefined
  deriving DecidableEq, Repr

namespace Binary64

/-- The least exponent. -/
def leastExponent : Int := -1074

/-- The greatest exponent. -/
def greatestExponent : Int := 971

/-- The least mantissa that is too long. -/
def mantissaLimit : Nat := 9007199254740992

/-- Zero, with its sign. -/
def zero (negative : Bool) : Binary64 := finite negative 0 leastExponent

/-- The exponent with which a quotient that is not zero is held: the mantissa then has 53 digits,
unless the exponent would be too small. -/
def exponentOf (r : Ratio) : Int :=
  let guess := (r.1.log2 : Int) - (r.2.log2 : Int) - 53
  let start := if guess < leastExponent then leastExponent else guess
  if (r.scale 2 (-start)).floor < mantissaLimit then start else start + 1

/-- A number with a mantissa that is at most `mantissaLimit`. -/
def assemble (negative : Bool) (mantissa : Nat) (exponent : Int) : Binary64 :=
  let (mantissa, exponent) :=
    if mantissa = mantissaLimit then (mantissa / 2, exponent + 1) else (mantissa, exponent)
  if greatestExponent < exponent then infinite negative else finite negative mantissa exponent

/-- The number nearest to a quotient. -/
def ofRatio (negative : Bool) (r : Ratio) : Binary64 :=
  if r.1 = 0 then zero negative
  else
    let exponent := exponentOf r
    assemble negative (r.scale 2 (-exponent)).nearest exponent

/-- The number nearest to `mantissa` times `10^exponent`.  What has its first digit beyond the four
hundredth place is too large or too small in any case. -/
def ofDecimal (negative : Bool) (mantissa : Nat) (exponent : Int) : Binary64 :=
  let place := exponent + ((Nat.toDigits 10 mantissa).length : Int)
  if mantissa = 0 ∨ place < -400 then zero negative
  else if 400 < place then infinite negative
  else ofRatio negative (Ratio.scale 10 exponent (mantissa, 1))

/-- Whether a number is zero. -/
def isZero : Binary64 → Bool
  | finite _ mantissa _ => mantissa == 0
  | _ => false

/-- The value of a number, if it is whole. -/
def whole? : Binary64 → Option Int
  | finite negative mantissa exponent =>
    let r := Ratio.scale 2 exponent (mantissa, 1)
    if r.1 % r.2 = 0 then some (if negative then -(r.floor : Int) else r.floor) else none
  | _ => none

end Binary64

end ContractAudit
