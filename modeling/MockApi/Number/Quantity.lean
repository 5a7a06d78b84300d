import MockApi.Number.Double

/-!
# Quantities

* `Quantity` : an integer of any size or a double;
* `Quantity.add`, `sub`, `mul`, `div`, `mod`, `neg` : arithmetic, exact between integers except for
  the quotient, which is a double; an integer beside a double is first rounded to one;
* `Quantity.compare` : the exact order, with no answer for a NaN.
-/

namespace MockApi

/-- An integer of any size or a double. -/
inductive Quantity where
  | int (n : Int)
  | float (x : Double)
  deriving DecidableEq, Repr

namespace Quantity

/-- Why an operation has no result. -/
inductive Failure where
  | divisionByZero
  | overflow
  deriving DecidableEq, Repr

def toDouble : Quantity → Except Failure Double
  | .float x => .ok x
  | .int n =>
    match Double.ofInt? n with
    | some x => .ok x
    | none => .error .overflow

/-- An operation on integers, or else on doubles. -/
def combine (onInts : Int → Int → Except Failure Quantity)
    (onDoubles : Double → Double → Except Failure Quantity) :
    Quantity → Quantity → Except Failure Quantity
  | .int m, .int n => onInts m n
  | a, b => do
    let x ← a.toDouble
    let y ← b.toDouble
    onDoubles x y

def add : Quantity → Quantity → Except Failure Quantity :=
  combine (fun m n => .ok (.int (m + n))) (fun x y => .ok (.float (x.add y)))

def sub : Quantity → Quantity → Except Failure Quantity :=
  combine (fun m n => .ok (.int (m - n))) (fun x y => .ok (.float (x.sub y)))

def mul : Quantity → Quantity → Except Failure Quantity :=
  combine (fun m n => .ok (.int (m * n))) (fun x y => .ok (.float (x.mul y)))

/-- The double nearest to the quotient of two integers; a zero has the sign of the quotient of
signs. -/
def divInts (m n : Int) : Except Failure Quantity :=
  if n = 0 then .error .divisionByZero
  else
    match Double.nearest ((decide (m < 0)) != (decide (n < 0))) m.natAbs n.natAbs with
    | .infinite _ => .error .overflow
    | x => .ok (.float x)

/-- The quotient, which is a double. -/
def div : Quantity → Quantity → Except Failure Quantity :=
  combine divInts fun x y =>
    match x.div? y with
    | some z => .ok (.float z)
    | none => .error .divisionByZero

/-- The remainder of the division that rounds down. -/
def mod : Quantity → Quantity → Except Failure Quantity :=
  combine (fun m n => if n = 0 then .error .divisionByZero else .ok (.int (m.fmod n)))
    fun x y =>
      match x.mod? y with
      | some z => .ok (.float z)
      | none => .error .divisionByZero

def neg : Quantity → Quantity
  | .int n => .int (-n)
  | .float x => .float x.neg

/-- The exact order of two quantities. -/
def compare : Quantity → Quantity → Option Ordering
  | .int m, .int n => some (Ord.compare m n)
  | .float x, .float y => x.compare y
  | .float x, .int n => x.compareInt n
  | .int n, .float x => (x.compareInt n).map Ordering.swap

def isZero : Quantity → Bool
  | .int n => n == 0
  | .float x => x.isZero

end Quantity

end MockApi
