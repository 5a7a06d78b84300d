/-!
# Double precision numbers

* `Double` : a binary floating point number of 64 bits, as an exact value;
* `Double.nearest` : the double nearest to a ratio, with a tie going to the even significand;
* `Double.toRat` : the exact value of a finite double;
* `Double.ofInt?`, `Double.ofRat` : rounding of integers and rationals;
* `Double.add`, `sub`, `mul`, `div?`, `mod?`, `neg` : arithmetic, each exact and then rounded once;
* `Double.compare`, `Double.compareInt` : exact comparison, with no answer for a NaN.
-/

namespace MockApi

/-- A binary floating point number of 64 bits. A finite one is `± significand * 2 ^ exponent`, with
a significand below `2 ^ 53` and an exponent of at least `-1074`; all functions of this module give
it the largest significand that these bounds allow. -/
inductive Double where
  | finite (negative : Bool) (significand : Nat) (exponent : Int)
  | infinite (negative : Bool)
  | nan
  deriving DecidableEq, Repr, Inhabited

namespace Double

def minExponent : Int := -1074

def maxExponent : Int := 971

def zero (negative : Bool) : Double := .finite negative 0 minExponent

/-- The quotient rounded to the nearest integer, a tie to the even one. -/
def roundQuotient (num den : Nat) : Nat :=
  let q := num / den
  let r := num % den
  if den < 2 * r ∨ (den = 2 * r ∧ q % 2 = 1) then q + 1 else q

/-- The numerator of `num / den / 2 ^ exponent`. -/
def scaledNum (num : Nat) (exponent : Int) : Nat := num * Nat.pow 2 (-exponent).toNat

/-- The denominator of `num / den / 2 ^ exponent`. -/
def scaledDen (den : Nat) (exponent : Int) : Nat := den * Nat.pow 2 exponent.toNat

/-- The exponent that puts the quotient of two positive numbers between `2 ^ 52` and `2 ^ 53`, or
the least exponent if that is greater. -/
def exponentOf (num den : Nat) : Int :=
  let guess : Int := (num.log2 : Int) - (den.log2 : Int) - 52
  let exact := if scaledNum num guess < Nat.pow 2 52 * scaledDen den guess then guess - 1 else guess
  max exact minExponent

/-- The double nearest to `num / den`, a tie going to the even significand; what is too large for
a finite one is infinite. The sign is kept also where the result is zero. -/
def nearest (negative : Bool) (num den : Nat) : Double :=
  if num = 0 then zero negative
  else
    let exponent := exponentOf num den
    let significand := roundQuotient (scaledNum num exponent) (scaledDen den exponent)
    if significand = Nat.pow 2 53 then
      if maxExponent ≤ exponent then .infinite negative
      else .finite negative (Nat.pow 2 52) (exponent + 1)
    else if maxExponent < exponent then .infinite negative
    else .finite negative significand exponent

/-- The exact value of a finite double, and zero for the others. -/
def toRat : Double → Rat
  | .finite negative significand exponent =>
    let size : Rat := mkRat (scaledNum significand (-exponent)) (scaledDen 1 (-exponent))
    if negative then -size else size
  | _ => 0

/-- The double nearest to a rational; `negative` is the sign of an exact zero. -/
def ofRat (negative : Bool) (r : Rat) : Double :=
  if r.num = 0 then zero negative else nearest (r.num < 0) r.num.natAbs r.den

/-- The double nearest to an integer, if a finite one is. -/
def ofInt? (n : Int) : Option Double :=
  match nearest (n < 0) n.natAbs 1 with
  | .infinite _ => none
  | x => some x

/-- A number of digits that a power of two with the given exponent exceeds: `10 ^ 3 ≤ 2 ^ 10`. -/
def fewestDigits (bits : Nat) : Nat := bits * 3 / 10

/-- A number of digits that a power of two with the given exponent fits in: `2 ^ 13 ≤ 10 ^ 4`. -/
def mostDigits (bits : Nat) : Nat := bits * 4 / 13 + 1

/-- The double nearest to `mantissa * 10 ^ exponent`. What is far below the least positive double or
far above the greatest finite one is told from its number of digits, before any power is computed. -/
def ofDecimal (negative : Bool) (mantissa : Nat) (exponent : Int) : Double :=
  let bits := mantissa.log2
  if mantissa = 0 ∨ mostDigits (bits + 1) + exponent < -340 then zero negative
  else if 320 < fewestDigits bits + exponent then .infinite negative
  else nearest negative (mantissa * Nat.pow 10 exponent.toNat) (Nat.pow 10 (-exponent).toNat)

/-- The sign bit; a NaN counts as positive. -/
def isNegative : Double → Bool
  | .finite negative _ _ => negative
  | .infinite negative => negative
  | .nan => false

/-- Whether the double is a number, of either sign, and no infinity. -/
def isFinite : Double → Bool
  | .finite _ _ _ => true
  | _ => false

def isZero : Double → Bool
  | .finite _ significand _ => significand == 0
  | _ => false

/-- The integer a finite double equals. -/
def toInt? (x : Double) : Option Int :=
  if x.isFinite ∧ x.toRat.den = 1 then some x.toRat.num else none

def neg : Double → Double
  | .finite negative significand exponent => .finite (!negative) significand exponent
  | .infinite negative => .infinite (!negative)
  | .nan => .nan

def add : Double → Double → Double
  | .nan, _ => .nan
  | _, .nan => .nan
  | .infinite s, .infinite t => if s = t then .infinite s else .nan
  | .infinite s, _ => .infinite s
  | _, .infinite t => .infinite t
  | x, y => ofRat (x.isNegative && y.isNegative) (x.toRat + y.toRat)

def sub (x y : Double) : Double := x.add y.neg

def mul : Double → Double → Double
  | .nan, _ => .nan
  | _, .nan => .nan
  | .infinite s, y => if y.isZero then .nan else .infinite (s != y.isNegative)
  | x, .infinite t => if x.isZero then .nan else .infinite (x.isNegative != t)
  | x, y => ofRat (x.isNegative != y.isNegative) (x.toRat * y.toRat)

/-- The quotient; there is none by zero. -/
def div? (x y : Double) : Option Double :=
  if y.isZero then none
  else
    some <| match x, y with
      | .nan, _ => .nan
      | _, .nan => .nan
      | .infinite _, .infinite _ => .nan
      | .infinite s, y => .infinite (s != y.isNegative)
      | x, .infinite t => zero (x.isNegative != t)
      | x, y => ofRat (x.isNegative != y.isNegative) (x.toRat / y.toRat)

/-- The remainder of the division that rounds toward zero, with the sign of `x`. -/
def truncatedRemainder (x y : Double) : Double :=
  match x, y with
  | .nan, _ => .nan
  | _, .nan => .nan
  | .infinite _, _ => .nan
  | x, .infinite _ => x
  | x, y =>
    let q := x.toRat / y.toRat
    let whole : Rat := if q < 0 then q.ceil else q.floor
    ofRat x.isNegative (x.toRat - whole * y.toRat)

/-- The remainder of the division that rounds down, which has the sign of `y`; there is none by
zero. -/
def mod? (x y : Double) : Option Double :=
  if y.isZero then none
  else
    let r := truncatedRemainder x y
    some <|
      if r = .nan then .nan
      else if r.isZero then zero y.isNegative
      else if r.isNegative != y.isNegative then r.add y
      else r

/-- The order of two doubles; a NaN has no place in it. -/
def compare : Double → Double → Option Ordering
  | .nan, _ => none
  | _, .nan => none
  | .infinite s, .infinite t => some (if s = t then .eq else if s then .lt else .gt)
  | .infinite s, _ => some (if s then .lt else .gt)
  | _, .infinite t => some (if t then .gt else .lt)
  | x, y =>
    some (if x.toRat < y.toRat then .lt else if y.toRat < x.toRat then .gt else .eq)

/-- The order of a double and an integer, compared exactly. -/
def compareInt : Double → Int → Option Ordering
  | .nan, _ => none
  | .infinite s, _ => some (if s then .lt else .gt)
  | x, n =>
    some (if x.toRat < (n : Rat) then .lt else if (n : Rat) < x.toRat then .gt else .eq)

end Double

end MockApi
