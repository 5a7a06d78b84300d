import MockApi.Chance
import MockApi.Json.Value
import MockApi.Number.Numeral
import MockApi.Text.CharRange

/-!
# Repeats

A formula says how many copies of a list to put one after the other: `5`, or `5..10` for a number
between the two bounds, either of which may be left out and then is the length of the list.

* `Repeat.Bounds` : the least and the greatest number of copies;
* `Repeat.parse` : the bounds of a formula;
* `Repeat.expand` : the copies.
-/

namespace MockApi.Repeat

/-- The least and the greatest number of copies. -/
structure Bounds where
  low : Nat
  high : Nat
  low_le_high : low ≤ high
  deriving DecidableEq, Repr

/-- What is wrong with a formula. -/
inductive Fault where
  | invalidNumber (text : Text)
  | inverted (low high : Nat)
  | integer (fault : IntegerFault)
  deriving DecidableEq, Repr

def Fault.message : Fault → String
  | .invalidNumber text => "Invalid repeat number: " ++ Text.quoted text
  | .inverted low high =>
    "Invalid repeat options: min(" ++ toString low ++ ") max(" ++ toString high ++ ")"
  | .integer fault => fault.message

/-- A number of copies: ASCII digits, with blanks around them ignored. -/
def parseCount (text : Text) : Except Fault Nat :=
  let text := Text.strip text
  if Text.isAllAsciiDigits text then
    match readInteger text with
    | .ok n => .ok n.toNat
    | .error fault => .error (.integer fault)
  else .error (.invalidNumber text)

/-- A bound, which is `length` where none is written. -/
def parseBound (length : Nat) (text : Text) : Except Fault Nat :=
  if Text.isAllBlank text then .ok length else parseCount text

/-- The bounds that a formula gives for a list of some length. -/
def parse (formula : Text) (length : Nat) : Except Fault Bounds :=
  match Text.splitAtFirst ".." formula with
  | none => do
    let count ← parseCount formula
    return ⟨count, count, Nat.le_refl count⟩
  | some (low, high) => do
    let low ← parseBound length low
    let high ← parseBound length high
    if h : low ≤ high then return ⟨low, high, h⟩ else throw (.inverted low high)

def copies (count : Nat) (items : List Value) : List Value := (List.replicate count items).flatten

/-- A list repeated as often as a formula allows and chance picks. -/
def expand (items : List Value) (formula : Text) (chance : Chance) :
    Except Fault (List Value × Chance) := do
  let bounds ← parse formula items.length
  let (count, chance) := chance.pick bounds.low bounds.high
  return (copies count items, chance)

end MockApi.Repeat
