import MockApi.Json.Value
import MockApi.Number.Numeral
import MockApi.Text.Digit

/-!
# Reading JSON

* `Json.Complaint` : what can be wrong with a document, and its wording;
* `Json.ReadError` : a complaint with its place, or an integer with too many digits;
* `Json.Dialect` : how a document is read;
* `Json.read` : the value a string denotes.

Besides standard JSON the numerals `NaN`, `Infinity` and `-Infinity` are read. Of a name that is
repeated in an object the first place and the last value count.
-/

namespace MockApi.Json

/-- What is wrong with a document. -/
inductive Complaint where
  | expectedValue
  | expectedName
  | expectedColon
  | expectedComma
  | controlCharacter
  | unterminatedText
  | unknownEscape
  | malformedCodePoint
  | trailingText
  | byteOrderMark
  deriving DecidableEq, Repr

def Complaint.message : Complaint → String
  | .expectedValue => "Expecting value"
  | .expectedName => "Expecting property name enclosed in double quotes"
  | .expectedColon => "Expecting ':' delimiter"
  | .expectedComma => "Expecting ',' delimiter"
  | .controlCharacter => "Invalid control character at"
  | .unterminatedText => "Unterminated string starting at"
  | .unknownEscape => "Invalid \\escape"
  | .malformedCodePoint => "Invalid \\uXXXX escape"
  | .trailingText => "Extra data"
  | .byteOrderMark => "Unexpected UTF-8 BOM (decode using utf-8-sig)"

/-- Why reading stopped, `left` characters before the end of the text. -/
inductive Stop where
  | malformed (complaint : Complaint) (left : Nat)
  | longInteger (digits : Nat)
  deriving DecidableEq, Repr

/-- A blank between the tokens of a document. -/
def isGap (c : Char) : Bool := c = ' ' || c = '\t' || c = '\n' || c = '\r'

def skipGaps (text : List Char) : List Char := text.dropWhile isGap

def stop {α : Type} (complaint : Complaint) (rest : List Char) : Except Stop α :=
  .error (.malformed complaint rest.length)

/-- How a document is read. -/
structure Dialect where
  /-- The most digits of an integer. -/
  digitLimit : Nat
  /-- Whether the rules of settings hold: two halves never make a pair, a double is written with a
  point, its exponent has a sign, and other numerals and words for numbers are texts. -/
  forSettings : Bool

def Dialect.standard : Dialect := ⟨maxIntegerDigits, false⟩

def Dialect.settings : Dialect := ⟨maxIntegerDigits, true⟩

/-! ## Texts -/

/-- The value of four hexadecimal digits. -/
def codeUnit? (a b c d : Char) : Option Nat := do
  let a ← Text.hexValue? a
  let b ← Text.hexValue? b
  let c ← Text.hexValue? c
  let d ← Text.hexValue? d
  return ((a * 16 + b) * 16 + c) * 16 + d

/-- The first and the second half of a pair of code units. -/
def isHighHalf (n : Nat) : Bool := 0xD800 ≤ n && n < 0xDC00

@[inherit_doc isHighHalf]
def isLowHalf (n : Nat) : Bool := 0xDC00 ≤ n && n < 0xE000

def ofPair (high low : Nat) : CodePoint :=
  .ofNat (0x10000 + (high - 0xD800) * 0x400 + (low - 0xDC00))

/-- What a one-letter escape stands for. -/
def shortEscape? : Char → Option Char
  | '"' => some '"'
  | '\\' => some '\\'
  | '/' => some '/'
  | 'b' => some '\x08'
  | 'f' => some '\x0C'
  | 'n' => some '\n'
  | 'r' => some '\r'
  | 't' => some '\t'
  | _ => none

/-- The second half of a pair, where the first one has just been read, and what follows it. The text
goes on behind an escape, or no text would end there. -/
def lowHalf (rest : List Char) : Except Stop (Option (Nat × List Char)) :=
  match rest with
  | '\\' :: 'u' :: a :: b :: c :: d :: e :: after =>
    match codeUnit? a b c d with
    | none => stop .malformedCodePoint ('u' :: a :: b :: c :: d :: e :: after)
    | some n => .ok (if isLowHalf n then some (n, e :: after) else none)
  | _ => .ok none

/-- An escape, read behind its backslash: the code point and what follows. `start` is the text from
the opening quote on, `here` the text from the backslash on. -/
def readEscape (dialect : Dialect) (start here : List Char) :
    List Char → Except Stop (CodePoint × List Char)
  | [] => stop .unterminatedText start
  | 'u' :: rest =>
    match rest with
    | a :: b :: c :: d :: e :: after =>
      match codeUnit? a b c d with
      | none => stop .malformedCodePoint ('u' :: rest)
      | some n =>
        if isHighHalf n && !dialect.forSettings then
          match lowHalf (e :: after) with
          | .error s => .error s
          | .ok none => .ok (.ofNat n, e :: after)
          | .ok (some (low, after)) => .ok (ofPair n low, after)
        else .ok (.ofNat n, e :: after)
    | _ => stop .malformedCodePoint ('u' :: rest)
  | c :: rest =>
    match shortEscape? c with
    | none => stop .unknownEscape here
    | some c => .ok (c, rest)

/-- The rest of a text behind its opening quote, and what follows the closing one. -/
def readCodes (dialect : Dialect) (start : List Char) :
    (fuel : Nat) → List Char → Except Stop (Text × List Char)
  | 0, _ => stop .unterminatedText start
  | _ + 1, [] => stop .unterminatedText start
  | _ + 1, '"' :: rest => .ok ([], rest)
  | fuel + 1, '\\' :: rest => do
    let (c, rest) ← readEscape dialect start ('\\' :: rest) rest
    let (codes, rest) ← readCodes dialect start fuel rest
    return (c :: codes, rest)
  | fuel + 1, c :: rest => do
    if c.toNat < 0x20 then stop .controlCharacter (c :: rest)
    else
      let (codes, rest) ← readCodes dialect start fuel rest
      return (.ofChar c :: codes, rest)

/-- The text whose opening quote has just been passed. -/
def readText (dialect : Dialect) (rest : List Char) : Except Stop (Text × List Char) :=
  readCodes dialect ('"' :: rest) (rest.length + 1) rest

/-! ## Numbers -/

def takeDigits (text : List Char) : List Char × List Char :=
  (text.takeWhile Char.isDigit, text.dropWhile Char.isDigit)

def numberOf (digits : List Char) : Nat :=
  Text.digitsValue ((Text.ofChars digits).filterMap Text.asciiDigitValue?)

/-- The digits of a whole part, which has no leading zero unless it is zero. -/
def wholeDigits? : List Char → Option (List Char × List Char)
  | '0' :: rest => some (['0'], rest)
  | c :: rest => if c.isDigit then some (takeDigits (c :: rest)) else none
  | [] => none

/-- The digits behind a point, if a point with a digit comes next. -/
def fractionDigits? : List Char → Option (List Char × List Char)
  | '.' :: c :: rest => if c.isDigit then some (takeDigits (c :: rest)) else none
  | _ => none

/-- An exponent, if a complete one comes next, whether it has a sign, and what follows. -/
def exponent? : List Char → Option (Int × Bool × List Char)
  | c :: rest =>
    if c = 'e' ∨ c = 'E' then
      let negative : Bool := rest.head? = some '-'
      let signed : Bool := negative || rest.head? = some '+'
      match takeDigits (if signed then rest.tail else rest) with
      | ([], _) => none
      | (digits, rest) =>
        let n : Int := numberOf digits
        some (if negative then -n else n, signed, rest)
    else none
  | [] => none

/-- The characters of `text` in front of `rest`, with a minus sign before them or not. -/
def numeralText (negative : Bool) (text rest : List Char) : Value :=
  .text ((if negative then "-" else "") ++ String.ofList (text.take (text.length - rest.length)))

/-- The number at the start of the text behind an optional minus sign, unless there is none. -/
def readNumber? (dialect : Dialect) (negative : Bool) (text : List Char) :
    Option (Except Stop (Value × List Char)) :=
  match wholeDigits? text with
  | none => none
  | some (whole, rest) =>
    let (fraction, rest', hasFraction) :=
      match fractionDigits? rest with
      | some (fraction, rest') => (fraction, rest', true)
      | none => ([], rest, false)
    let mantissa := numberOf (whole ++ fraction)
    match exponent? rest' with
    | some (exponent, signed, rest'') =>
      if dialect.forSettings && !(hasFraction && signed) then
        some (.ok (numeralText negative text rest'', rest''))
      else some (.ok (.float (.ofDecimal negative mantissa (exponent - fraction.length)), rest''))
    | none =>
      if hasFraction then
        some (.ok (.float (.ofDecimal negative mantissa (-fraction.length)), rest'))
      else if dialect.digitLimit < whole.length then some (.error (.longInteger whole.length))
      else some (.ok (.int (if negative then -mantissa else mantissa), rest'))

def words : List (String × Value) := [("null", .null), ("true", .bool true), ("false", .bool false)]

def numberWords : List (String × Double) :=
  [("NaN", .nan), ("Infinity", .infinite false), ("-Infinity", .infinite true)]

def Dialect.words (dialect : Dialect) : List (String × Value) :=
  Json.words ++ numberWords.map fun (word, x) =>
    (word, if dialect.forSettings then .text word else .float x)

/-- The word or number at the start of the text. -/
def readScalar (dialect : Dialect) (text : List Char) : Except Stop (Value × List Char) :=
  let word? := dialect.words.findSome? fun (word, v) =>
    (Text.after? word.toList text).map fun rest => (v, rest)
  match word? with
  | some found => .ok found
  | none =>
    let number? :=
      match text with
      | '-' :: rest => readNumber? dialect true rest
      | rest => readNumber? dialect false rest
    match number? with
    | some result => result
    | none => stop .expectedValue text

/-! ## Documents -/

mutual

/-- The value at the start of the text, and what follows it. -/
def readValue (dialect : Dialect) : (fuel : Nat) → List Char → Except Stop (Value × List Char)
  | 0, text => stop .expectedValue text
  | fuel + 1, text =>
    match text with
    | '"' :: rest => do
      let (s, rest) ← readText dialect rest
      return (.text s, rest)
    | '[' :: rest =>
      match skipGaps rest with
      | ']' :: rest => .ok (.list [], rest)
      | rest => do
        let (items, rest) ← readItems dialect fuel rest
        return (.list items, rest)
    | '{' :: rest =>
      match skipGaps rest with
      | '}' :: rest => .ok (.object [], rest)
      | rest => do
        let (pairs, rest) ← readMembers dialect fuel rest
        return (.object (Members.ofPairs pairs), rest)
    | text => readScalar dialect text

/-- The items of a list up to its closing bracket, at least one. -/
def readItems (dialect : Dialect) : (fuel : Nat) → List Char → Except Stop (List Value × List Char)
  | 0, text => stop .expectedValue text
  | fuel + 1, text => do
    let (v, rest) ← readValue dialect fuel text
    match skipGaps rest with
    | ']' :: rest => return ([v], rest)
    | ',' :: rest =>
      let (items, rest) ← readItems dialect fuel (skipGaps rest)
      return (v :: items, rest)
    | rest => stop .expectedComma rest

/-- The members of an object up to its closing brace, at least one. -/
def readMembers (dialect : Dialect) :
    (fuel : Nat) → List Char → Except Stop (List (Text × Value) × List Char)
  | 0, text => stop .expectedName text
  | fuel + 1, text =>
    match text with
    | '"' :: rest => do
      let (key, rest) ← readText dialect rest
      match skipGaps rest with
      | ':' :: rest =>
        let (v, rest) ← readValue dialect fuel (skipGaps rest)
        match skipGaps rest with
        | '}' :: rest => return ([(key, v)], rest)
        | ',' :: rest =>
          let (members, rest) ← readMembers dialect fuel (skipGaps rest)
          return ((key, v) :: members, rest)
        | rest => stop .expectedComma rest
      | rest => stop .expectedColon rest
    | text => stop .expectedName text

end

def readDocument (dialect : Dialect) (text : List Char) : Except Stop Value :=
  if text.head? = some '\uFEFF' then stop .byteOrderMark text
  else do
    let (v, rest) ← readValue dialect (2 * text.length + 2) (skipGaps text)
    match skipGaps rest with
    | [] => return v
    | rest => stop .trailingText rest

/-! ## Places -/

/-- Why a document cannot be read. -/
inductive ReadError where
  /-- The document is malformed at a position, which is counted from zero. -/
  | malformed (complaint : Complaint) (line column position : Nat)
  /-- An integer has more digits than are converted. -/
  | longInteger (digits : Nat)
  deriving DecidableEq, Repr

def ReadError.message : ReadError → String
  | .malformed complaint line column position =>
    complaint.message ++ ": line " ++ toString line ++ " column " ++ toString column ++
      " (char " ++ toString position ++ ")"
  | .longInteger digits => (IntegerFault.tooLong digits).message

/-- The error for reading that stopped somewhere in the text. Lines and columns count from one. -/
def ReadError.ofStop (text : List Char) : Stop → ReadError
  | .longInteger digits => .longInteger digits
  | .malformed complaint left =>
    let passed := text.take (text.length - left)
    let column := (passed.reverse.takeWhile (· ≠ '\n')).length + 1
    .malformed complaint (passed.count '\n' + 1) column passed.length

/-- The value that a string denotes in a dialect. -/
def readIn (dialect : Dialect) (text : String) : Except ReadError Value :=
  (readDocument dialect text.toList).mapError (ReadError.ofStop text.toList)

def read (text : String) : Except ReadError Value := readIn .standard text

end MockApi.Json
