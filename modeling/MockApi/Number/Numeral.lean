import MockApi.Number.Double
import MockApi.Text.Blank
import MockApi.Text.Casing
import MockApi.Text.Quoted

/-!
# Reading numerals

* `readInteger` : an integer with an optional sign, decimal digits of any script and single
  underscores between them, at most 4300 of them;
* `IntegerFault` : why a text is no such integer, or an integer is not written;
* `readDouble?` : a decimal numeral, or a word for what is not finite;
* `decimalNumeral?` : the mantissa and exponent of a plain decimal numeral.
-/

namespace MockApi

/-- The most digits an integer may be read from or written with. -/
def maxIntegerDigits : Nat := 4300

/-- Why a text is not read as an integer, or an integer not written as a text. -/
inductive IntegerFault where
  /-- The text is no integer. -/
  | malformed (text : Text)
  /-- The text has more digits than are converted. -/
  | tooLong (digits : Nat)
  /-- The integer has more digits than are converted. -/
  | unwritten
  deriving DecidableEq, Repr

/-- The wording of a fault; a long text is shown in part. -/
def IntegerFault.message : IntegerFault → String
  | .malformed text =>
    "invalid literal for int() with base 10: " ++ String.ofList ((Text.quoted text).toList.take 200)
  | .tooLong digits =>
    "Exceeds the limit (4300 digits) for integer string conversion: value has " ++
      toString digits ++
      " digits; use sys.set_int_max_str_digits() to increase the limit"
  | .unwritten =>
    "Exceeds the limit (4300 digits) for integer string conversion; " ++
      "use sys.set_int_max_str_digits() to increase the limit"

/-- The values of the leading decimal digits, which may have single underscores between them, and
what follows. -/
def digitRun : Text → List Nat × Text
  | [] => ([], [])
  | c :: rest =>
    match Text.decimalValue? c with
    | none => ([], c :: rest)
    | some d =>
      match rest with
      | u :: c' :: rest' =>
        if u = '_' then
          if (Text.decimalValue? c').isSome then
            let (ds, rest) := digitRun (c' :: rest')
            (d :: ds, rest)
          else ([d], rest)
        else
          let (ds, rest) := digitRun (u :: c' :: rest')
          (d :: ds, rest)
      | rest =>
        let (ds, rest) := digitRun rest
        (d :: ds, rest)

def signOf (text : Text) : Bool × Text :=
  if text.head? = some (.ofChar '-') then (true, text.tail)
  else if text.head? = some (.ofChar '+') then (false, text.tail)
  else (false, text)

/-- Reads an integer; blanks around it are ignored. -/
def readInteger (text : Text) : Except IntegerFault Int :=
  let (negative, numeral) := signOf (Text.strip text)
  let (digits, rest) := digitRun numeral
  if digits = [] ∨ rest.head? = some (.ofChar '_') then .error (.malformed text)
  else if maxIntegerDigits < digits.length then .error (.tooLong digits.length)
  else if rest ≠ [] then .error (.malformed text)
  else
    let n : Int := Text.digitsValue digits
    .ok (if negative then -n else n)

/-- An exponent part, if there is one: `e`, an optional sign and digits. -/
def exponentPart? : Text → Option Int
  | [] => some 0
  | c :: rest =>
    if c = 'e' ∨ c = 'E' then
      let (negative, rest) := signOf rest
      let (digits, rest) := digitRun rest
      if digits = [] ∨ rest ≠ [] then none
      else
        let n : Int := Text.digitsValue digits
        some (if negative then -n else n)
    else none

/-- The mantissa and the exponent of ten of an unsigned decimal numeral: digits, at least one, with
an optional point among or around them, and an optional exponent. -/
def decimalNumeral? (text : Text) : Option (Nat × Int) :=
  let (whole, rest) := digitRun text
  let (fraction, rest) :=
    if rest.head? = some (.ofChar '.') ∧ rest.tail.head? ≠ some (.ofChar '_') then
      digitRun rest.tail
    else ([], rest)
  if whole = [] ∧ fraction = [] then none
  else (exponentPart? rest).map fun exponent =>
    (Text.digitsValue (whole ++ fraction), exponent - fraction.length)

/-- Reads a number with a fraction or an exponent, an infinity or a NaN; blanks around it are
ignored, and so is the case of the words. -/
def readDouble? (text : Text) : Option Double :=
  let (negative, numeral) := signOf (Text.strip text)
  match decimalNumeral? numeral with
  | some (mantissa, exponent) => some (.ofDecimal negative mantissa exponent)
  | none =>
    let word := Text.lower numeral
    if word = "inf" ∨ word = "infinity" then some (.infinite negative)
    else if word = "nan" then some .nan
    else none

end MockApi
