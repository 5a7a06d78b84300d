import MockApi.Document.Check
import MockApi.Number.Numeral

/-!
# Lenient readings

Settings may be written in more ways than one: a number as a text, a truth value as a word.

* `Lenient.integer` : an integer;
* `Lenient.boolean` : a truth value;
* `Lenient.NumberRule` : which integers are too large.
-/

namespace MockApi.Lenient

/-- A rule that a number breaks. -/
inductive NumberRule where
  | oversize
  | infinite
  deriving DecidableEq, Repr

def NumberRule.message : NumberRule → String
  | .oversize => "Unable to parse input string as an integer, exceeded maximum size"
  | .infinite => "Input should be a finite number"

/-- The bound of the integers of 64 bits. -/
def machineBound : Int := 0x8000000000000000

def integerOfDouble (x : Double) : Checked NumberRule Int :=
  if !x.isFinite then Checked.breaks .infinite
  else
    match x.toInt? with
    | none => Checked.complain .fractionalInteger
    | some n =>
      if -machineBound < n ∧ n < machineBound then .ok n else Checked.breaks .oversize

/-! ## Integers in texts -/

/-- The digits behind leading zeros, where `last` is the character passed last. Underscores among
the zeros are passed, too; a zero in front of a point is kept. -/
def dropZerosFrom (last : Char) : List Char → Option (List Char)
  | [] => some [last]
  | c :: rest =>
    if c = '0' ∨ c = '_' then dropZerosFrom c rest
    else if c.isDigit then some (c :: rest)
    else if c = '.' then some (last :: c :: rest)
    else none

/-- A numeral without its leading zeros; what does not start like a numeral is none. -/
def dropZeros : List Char → Option (List Char)
  | [] => none
  | c :: rest =>
    if c = '0' then dropZerosFrom c rest
    else if c.isDigit ∨ c = '-' then some (c :: rest)
    else none

/-- A numeral without a point that only zeros follow. -/
def dropEmptyFraction (text : List Char) : List Char :=
  if ((text.dropWhile (· ≠ '.')).drop 1).all (· = '0') then text.takeWhile (· ≠ '.') else text

/-- A numeral without the underscores between its characters; two of them may not stand together,
and none may stand at an end. -/
def dropUnderscores (text : List Char) : List Char :=
  if (Text.fields '_' text).any List.isEmpty then text else text.filter (· ≠ '_')

def plainInteger? (text : List Char) : Option Int :=
  let digits := if text.head? = some '-' then text.drop 1 else text
  if digits.isEmpty || !digits.all Char.isDigit then none
  else if digits.length ≠ 1 ∧ digits.head? = some '0' then none
  else
    let n : Int := Text.digitsValue (digits.map fun c => c.toNat - 0x30)
    some (if text.head? = some '-' then -n else n)

def integerOfText (text : String) : Checked NumberRule Int :=
  let numeral? := (dropZeros (Text.strip text).lossy.toList).map fun numeral =>
    dropUnderscores (dropEmptyFraction numeral)
  match numeral? with
  | none => Checked.complain .unreadableInteger
  | some numeral =>
    match plainInteger? numeral with
    | none => Checked.complain .unreadableInteger
    | some n => if maxIntegerDigits < numeral.length then Checked.breaks .oversize else .ok n

/-- An integer: one, a truth value, a double without a fraction, or a text. -/
def integer : Value → Checked NumberRule Int
  | .int n => .ok n
  | .bool b => .ok (if b then 1 else 0)
  | .float x => integerOfDouble x
  | .text s => (Checked.wholeText s).bind integerOfText
  | _ => Checked.complain .notInteger

/-! ## Truth values -/

def trueWords : List String := ["1", "on", "t", "true", "y", "yes"]

def falseWords : List String := ["0", "off", "f", "false", "n", "no"]

def booleanOfInt (n : Int) : Checked NumberRule Bool :=
  if n = 0 then .ok false
  else if n = 1 then .ok true
  else Checked.complain .unreadableBoolean

/-- The truth value that a word stands for, whatever the case of its letters. -/
def booleanOfText (word : String) : Checked NumberRule Bool :=
  let folded := String.ofList (word.toList.map Char.toLower)
  if trueWords.contains folded then .ok true
  else if falseWords.contains folded then .ok false
  else Checked.complain .unreadableBoolean

/-- A truth value: one, zero or one, or a word. -/
def boolean : Value → Checked NumberRule Bool
  | .bool b => .ok b
  | .int n =>
    if -machineBound ≤ n ∧ n < machineBound then booleanOfInt n else Checked.complain .notBoolean
  | .float x =>
    match integerOfDouble x with
    | .ok n => booleanOfInt n
    | .error _ => Checked.complain .notBoolean
  | .text s => (Checked.wholeText s).bind booleanOfText
  | _ => Checked.complain .notBoolean

end MockApi.Lenient
