import MockApi.Number.DoubleText
import MockApi.Number.Numeral
import MockApi.Predicate.Token

/-!
# Numbers in predicates

* `scanNumber` : the number at the start of a source, and what follows it.

Integers are decimal, or hexadecimal, octal or binary with `0x`, `0o` or `0b`. Single underscores may
stand between digits. A number with a point or an exponent is a double. A number is not followed by
a letter, unless that starts a word that can follow a number.
-/

namespace MockApi.Predicate

/-- A character that cannot follow a number directly. -/
def isWordChar (c : Char) : Bool := c.isAlphanum || c = '_' || 0x80 ≤ c.toNat

/-- The words that may follow a number directly, and some of their beginnings. -/
def afterNumber : List (List Char) :=
  ["and".toList, "else".toList, "for".toList, "if".toList, "in".toList, "is".toList, "or".toList,
    "not".toList]

def mayEndNumber (rest : List Char) : Bool :=
  match rest with
  | [] => true
  | c :: _ => !isWordChar c || afterNumber.any fun word => (Text.after? word rest).isSome

/-- The value of a digit in a base of at most sixteen. -/
def digitBelow? (base : Nat) (c : Char) : Option Nat :=
  (Text.hexValue? c).filter (· < base)

/-- The digits at the start of the text, which may have single underscores between them, and what
follows. There is no answer if an underscore is not followed by a digit. -/
def scanDigits (value? : Char → Option Nat) : List Char → Option (List Nat × List Char)
  | [] => some ([], [])
  | c :: rest =>
    match value? c with
    | none => some ([], c :: rest)
    | some d =>
      match rest with
      | '_' :: rest' =>
        match rest' with
        | [] => none
        | c' :: _ =>
          if (value? c').isNone then none
          else do
            let (ds, rest) ← scanDigits value? rest'
            return (d :: ds, rest)
      | rest => do
        let (ds, rest) ← scanDigits value? rest
        return (d :: ds, rest)

/-- The digits of an integer in base two, eight or sixteen, behind its mark. A first underscore is
allowed, and no other decimal digit may follow. -/
def scanRadix (base : Nat) (text : List Char) : Option (Constant × List Char) := do
  let text := match text with
    | '_' :: rest => rest
    | text => text
  let (ds, rest) ← scanDigits (digitBelow? base) text
  if ds = [] ∨ (rest.head?.any Char.isDigit) ∨ !mayEndNumber rest then none
  else some (.int (ds.foldl (fun n d => base * n + d) 0), rest)

/-- An exponent at the start of the text, if there is one, and what follows. There is no answer if
it lacks its digits. -/
def scanExponent (text : List Char) : Option (Option Int × List Char) :=
  match text with
  | c :: rest =>
    if c = 'e' ∨ c = 'E' then
      let negative := rest.head? = some '-'
      let behindSign := if negative || rest.head? = some '+' then rest.tail else rest
      match scanDigits (digitBelow? 10) behindSign with
      | none => none
      | some ([], _) =>
        if behindSign = rest ∧ mayEndNumber text then some (none, text) else none
      | some (ds, rest) =>
        let n : Int := Text.digitsValue ds
        some (some (if negative then -n else n), rest)
    else some (none, text)
  | [] => some (none, text)

/-- The end of a number: an imaginary one is marked by `j`. -/
def finishNumber (real : Option Constant) (imaginary : Double) (rest : List Char) :
    Option (Constant × List Char) :=
  match rest with
  | c :: behind =>
    if c = 'j' ∨ c = 'J' then
      if mayEndNumber behind then some (.foreign (imaginary.bareText ++ "j"), behind) else none
    else if mayEndNumber rest then real.map fun c => (c, rest) else none
  | [] => real.map fun c => (c, [])

/-- What follows the whole part of a decimal number. An integer has no leading zero unless it is
zero, and no more digits than are converted. -/
def scanFraction (whole : List Nat) (rest : List Char) : Option (Constant × List Char) := do
  let (fraction, rest, pointed) ←
    match rest with
    | '.' :: behind =>
      if behind.head? = some '_' then some ([], behind, true)
      else (scanDigits (digitBelow? 10) behind).map fun (ds, rest) => (ds, rest, true)
    | rest => some ([], rest, false)
  let (exponent?, rest) ← scanExponent rest
  let mantissa := Text.digitsValue (whole ++ fraction)
  let x := Double.ofDecimal false mantissa (exponent?.getD 0 - fraction.length)
  if pointed || exponent?.isSome then finishNumber (some (.float x)) x rest
  else if mantissa ≠ 0 ∧ (maxIntegerDigits < whole.length ∨ whole.head? = some 0) then
    finishNumber none x rest
  else finishNumber (some (.int mantissa)) x rest

/-- The number at the start of the text, which starts with a digit, or with a point and a digit. -/
def scanNumber (text : List Char) : Option (Constant × List Char) :=
  match text with
  | '0' :: c :: rest =>
    if c = 'x' ∨ c = 'X' then scanRadix 16 rest
    else if c = 'o' ∨ c = 'O' then scanRadix 8 rest
    else if c = 'b' ∨ c = 'B' then scanRadix 2 rest
    else do
      let (whole, rest) ← scanDigits (digitBelow? 10) text
      scanFraction whole rest
  | text => do
    let (whole, rest) ← scanDigits (digitBelow? 10) text
    scanFraction whole rest

end MockApi.Predicate
