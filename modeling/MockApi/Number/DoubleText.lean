import MockApi.Number.Double
import MockApi.Text.Digit

/-!
# Text of doubles

* `Double.shortest` : the fewest decimal digits that read back as the number, nearest to it;
* `Double.text` : the number as written in text, positional between `1e-4` and `1e16`;
* `Double.bareText` : the same without a final `.0`;
* `Double.jsonText` : the same with the words that JSON readers take for what is not finite;
* `Double.wholeText` : the number rounded to an integer, a tie to the even one.
-/

namespace MockApi

namespace Double

/-- `10 ^ k` as a fraction. -/
def powerOfTen (k : Int) : Nat × Nat := (Nat.pow 10 k.toNat, Nat.pow 10 (-k).toNat)

/-- The least `k` with `num / den < 10 ^ k`. -/
def decimalPoint (num den : Nat) : Int :=
  let size : Int := (num.log2 : Int) - (den.log2 : Int)
  let guess := (size * 30103).fdiv 100000
  let below (k : Int) : Bool := num * (powerOfTen k).2 < (powerOfTen k).1 * den
  if below guess then guess else if below (guess + 1) then guess + 1 else guess + 2

/-- The two neighbours of `num / den` among the multiples of `10 ^ unit` that read back as `x`, the
nearer one if both do, and the even one of two that are equally near. -/
def neighbour? (x : Double) (num den : Nat) (unit : Int) : Option Nat :=
  let (p, q) := powerOfTen unit
  let low := num * q / (den * p)
  let readsBack (n : Nat) : Bool := nearest false (n * p) q = x
  -- twice the distance to the lower one, against one unit
  let rest := 2 * (num * q - low * (den * p))
  let nearerLow : Bool := rest < den * p || (rest == den * p && low % 2 == 0)
  match readsBack low, readsBack (low + 1) with
  | true, true => some (if nearerLow then low else low + 1)
  | true, false => some low
  | false, true => some (low + 1)
  | false, false => none

/-- The first decimal with at most `digits + more` digits that reads back as `x`, with its unit. -/
def searchShortest (x : Double) (num den : Nat) (point : Int) : (digits more : Nat) → Nat × Int
  | digits, 0 => ((neighbour? x num den (point - digits)).getD 0, point - digits)
  | digits, more + 1 =>
    match neighbour? x num den (point - digits) with
    | some n => (n, point - digits)
    | none => searchShortest x num den point (digits + 1) more

/-- The digits of a positive number and the place of its decimal point: `0.ddd * 10 ^ point`. -/
def shortest (significand : Nat) (exponent : Int) : List Char × Int :=
  let num := scaledNum significand (-exponent)
  let den := scaledDen 1 (-exponent)
  let (n, unit) :=
    searchShortest (.finite false significand exponent) num den (decimalPoint num den) 1 16
  let digits := (toString n).toList
  let significant := (digits.reverse.dropWhile (· = '0')).reverse
  (significant, unit + digits.length)

/-- `0.ddd * 10 ^ point` as text: positional if the number is at least `1e-4` and below `1e16`,
else with an exponent of at least two digits. -/
def layOut (digits : List Char) (point : Int) (fraction : List Char) : List Char :=
  if -3 ≤ point ∧ point ≤ 16 then
    if point ≤ 0 then '0' :: '.' :: List.replicate (-point).toNat '0' ++ digits
    else if digits.length ≤ point.toNat then
      digits ++ List.replicate (point.toNat - digits.length) '0' ++ fraction
    else digits.take point.toNat ++ '.' :: digits.drop point.toNat
  else
    let power := point - 1
    let size := (toString power.natAbs).toList
    digits.take 1 ++ (if digits.length ≤ 1 then [] else '.' :: digits.drop 1) ++
      'e' :: (if power < 0 then '-' else '+') :: List.replicate (2 - size.length) '0' ++ size

/-- The text of a number, where `fraction` follows an integral one written positionally. -/
def textWith (fraction : List Char) : Double → String
  | .nan => "nan"
  | .infinite negative => if negative then "-inf" else "inf"
  | .finite negative significand exponent =>
    let size :=
      if significand = 0 then '0' :: fraction
      else
        let (digits, point) := shortest significand exponent
        layOut digits point fraction
    String.ofList (if negative then '-' :: size else size)

def text (x : Double) : String := x.textWith ['.', '0']

/-- The text of a number, where an integral one has no fraction. -/
def bareText (x : Double) : String := x.textWith []

def jsonText : Double → String
  | .nan => "NaN"
  | .infinite negative => if negative then "-Infinity" else "Infinity"
  | x => x.text

/-- The number rounded to an integer, a tie to the even one; the sign of a zero is kept. -/
def wholeText : Double → String
  | .finite negative significand exponent =>
    let n := roundQuotient (scaledNum significand (-exponent)) (scaledDen 1 (-exponent))
    (if negative then "-" else "") ++ toString n
  | x => x.text

end Double

end MockApi
