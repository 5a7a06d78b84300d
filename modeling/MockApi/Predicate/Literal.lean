import MockApi.Predicate.Token
import MockApi.Text.CharName

/-!
# Text literals

* `scanLiteral` : the literal at the start of a source, and what follows it;
* `decodeEscapes` : the code points that the inside of a literal stands for;
* `scanFormatted` : the expressions inside of a formatted literal.

A literal stands between single or double quotes, or between three of them, and then may span
lines. Letters before it mark a raw one (`r`), one of bytes (`b`) or a formatted one (`f`).
-/

namespace MockApi.Predicate

/-! ## Escapes -/

/-- The value of `count` hexadecimal digits at the start of the text, and what follows. -/
def takeHex : (count value : Nat) → List Char → Option (Nat × List Char)
  | 0, value, text => some (value, text)
  | _ + 1, _, [] => none
  | count + 1, value, c :: rest => do
    let d ← Text.hexValue? c
    takeHex count (16 * value + d) rest

def octalValue? (c : Char) : Option Nat := if '0' ≤ c ∧ c ≤ '7' then some (c.toNat - 0x30) else none

/-- The value of at most `count` octal digits at the start of the text, and what follows. -/
def takeOctal : (count value : Nat) → List Char → Nat × List Char
  | 0, value, text => (value, text)
  | _ + 1, value, [] => (value, [])
  | count + 1, value, c :: rest =>
    match octalValue? c with
    | some d => takeOctal count (8 * value + d) rest
    | none => (value, c :: rest)

/-- The code points of a one-letter escape; one that is unknown stands for itself. -/
def letterEscape (c : Char) : List Nat :=
  match c with
  | '\n' => []
  | '\\' => [0x5C]
  | '\'' => [0x27]
  | '"' => [0x22]
  | 'a' => [0x07]
  | 'b' => [0x08]
  | 'f' => [0x0C]
  | 'n' => [0x0A]
  | 'r' => [0x0D]
  | 't' => [0x09]
  | 'v' => [0x0B]
  | c => [0x5C, c.toNat]

/-- The character of a name that stands here in braces, and what follows. -/
def namedEscape : List Char → Option (List Nat × List Char)
  | '{' :: rest =>
    match rest.dropWhile (· ≠ '}') with
    | _ :: behind => (Text.charOfName? (rest.takeWhile (· ≠ '}'))).map fun n => ([n], behind)
    | [] => none
  | _ => none

/-- The code points of an escape, read behind its backslash, and what follows. Bytes have no escapes
for code points. -/
def scanEscape (ofBytes : Bool) (text : List Char) : Option (List Nat × List Char) :=
  match text with
  | [] => some ([0x5C], [])
  | c :: rest =>
    let hex (count : Nat) : Option (List Nat × List Char) := do
      let (n, rest) ← takeHex count 0 rest
      if n < 0x110000 then some ([n], rest) else none
    if (octalValue? c).isSome then
      let (n, rest) := takeOctal 3 0 (c :: rest)
      some ([if ofBytes then n % 0x100 else n], rest)
    else if c = 'x' then hex 2
    else if ofBytes then some (letterEscape c, rest)
    else if c = 'u' then hex 4
    else if c = 'U' then hex 8
    else if c = 'N' then namedEscape rest
    else some (letterEscape c, rest)

/-- The code points that the inside of a literal stands for. -/
def decodeEscapes (ofBytes : Bool) : (fuel : Nat) → List Char → Option (List Nat)
  | 0, _ => some []
  | _ + 1, [] => some []
  | fuel + 1, c :: rest =>
    if c = '\\' then do
      let (codes, rest) ← scanEscape ofBytes rest
      let more ← decodeEscapes ofBytes fuel rest
      return codes ++ more
    else do
      let more ← decodeEscapes ofBytes fuel rest
      return c.toNat :: more

/-- The code points of the inside of a literal, which is taken as it is if it is raw. -/
def contents (raw ofBytes : Bool) (body : List Char) : Option (List Nat) :=
  if raw then some (body.map Char.toNat) else decodeEscapes ofBytes (body.length + 1) body

/-! ## Expressions inside of literals -/

/-- An expression that starts here, and the text from the mark on that ends it. `quote` is the
quotation that is open and whether it has three marks, `opened` are the brackets that are. -/
def scanInner : (fuel : Nat) → (quote : Option (Char × Bool)) → (opened : List Char) →
    List Char → Option (List Char × List Char)
  | 0, _, _, _ => none
  | _ + 1, _, _, [] => none
  | fuel + 1, quote, opened, c :: rest =>
    let go (count : Nat) (quote : Option (Char × Bool)) (opened : List Char) :
        Option (List Char × List Char) := do
      let (taken, left) ← scanInner fuel quote opened ((c :: rest).drop count)
      return ((c :: rest).take count ++ taken, left)
    let tripled : Bool := rest.take 2 = [c, c]
    if c = '\\' then none
    else
      match quote with
      | some (mark, true) => if c = mark && tripled then go 3 none opened else go 1 quote opened
      | some (mark, false) => go 1 (if c = mark then none else quote) opened
      | none =>
        if c = '\'' ∨ c = '"' then
          if tripled then go 3 (some (c, true)) opened else go 1 (some (c, false)) opened
        else if c = '(' then go 1 none (')' :: opened)
        else if c = '[' then go 1 none (']' :: opened)
        else if c = '{' then go 1 none ('}' :: opened)
        else if c = '#' then none
        else if opened = [] then
          if (c = '!' ∨ c = '=' ∨ c = '<' ∨ c = '>') ∧ rest.head? = some '=' then go 2 none opened
          else if c = '!' ∨ c = ':' ∨ c = '}' ∨ c = '=' then some ([], c :: rest)
          else if c = ')' ∨ c = ']' then none
          else go 1 none opened
        else if c = ')' ∨ c = ']' ∨ c = '}' then
          if opened.head? = some c then go 1 none opened.tail else none
        else go 1 none opened

/-- A blank inside of an expression. -/
def isSourceGap (c : Char) : Bool := c = ' ' || c = '\t' || c = '\n' || c = '\x0C'

/-- What follows an equals sign behind an expression. -/
def skipEcho : List Char → List Char
  | '=' :: rest => rest.dropWhile fun c => isSourceGap c || c = '\r' || c = '\x0B'
  | text => text

/-- What follows a conversion behind an expression. -/
def skipConversion : List Char → Option (List Char)
  | '!' :: c :: rest => if c = 's' ∨ c = 'r' ∨ c = 'a' then some rest else none
  | '!' :: [] => none
  | text => some text

/-- A name in braces with its braces, if it starts here, and what follows. -/
def cutName (text : List Char) : List Char × List Char :=
  if text.head? = some '{' then
    let inside := text.takeWhile (· ≠ '}')
    (text.take (inside.length + 1), text.drop (inside.length + 1))
  else ([], text)

/-- The sources of the expressions inside of a formatted literal, or of one inside of the layout
part of another, and what follows it. `literal` is the text passed since the last one, last
character first. -/
def scanFormatted (raw : Bool) : (fuel level : Nat) → (literal : List Char) → List Char →
    Option (List (List Char) × List Char)
  | 0, _, _, _ => none
  | fuel + 1, level, literal, text =>
    let valid (literal : List Char) : Option Unit :=
      (contents raw false literal.reverse).map fun _ => ()
    match text with
    | [] => (valid literal).map fun _ => ([], [])
    | c :: rest =>
      let escapes : Bool := !raw && c = '\\' && !rest.isEmpty
      let brace := if escapes then rest.headD c else c
      let behind := if escapes then rest.tail else rest
      let literal := if escapes then c :: literal else literal
      if brace ≠ '{' ∧ brace ≠ '}' then
        let (name, behind) := if escapes && brace = 'N' then cutName behind else ([], behind)
        scanFormatted raw fuel level (name.reverse ++ brace :: literal) behind
      else if level = 0 ∧ behind.head? = some brace then do
        valid (brace :: literal)
        scanFormatted raw fuel level [] behind.tail
      else if brace = '}' then
        if level = 0 then none else (valid literal).map fun _ => ([], brace :: behind)
      else if 2 ≤ level then none
      else do
        valid literal
        let (source, rest) ← scanInner (behind.length + 1) none [] behind
        if source.all isSourceGap then none
        else
          let rest ← skipConversion (skipEcho rest)
          match rest with
          | '}' :: rest =>
            let (more, rest) ← scanFormatted raw fuel level [] rest
            return (source :: more, rest)
          | ':' :: rest =>
            let (inner, rest) ← scanFormatted raw fuel (level + 1) [] rest
            match rest with
            | '}' :: rest =>
              let (more, rest) ← scanFormatted raw fuel level [] rest
              return (source :: inner ++ more, rest)
            | _ => none
          | _ => none

/-! ## Literals -/

/-- The inside of a literal and what follows its closing quotes. A character behind a backslash
closes nothing, and neither does it end a line. -/
def scanBody (quote : Char) (tripled : Bool) : List Char → Option (List Char × List Char)
  | [] => none
  | '\\' :: c :: rest => (scanBody quote tripled rest).map fun (body, rest) => ('\\' :: c :: body, rest)
  | c :: rest =>
    let closing := if tripled then [quote, quote, quote] else [quote]
    match Text.after? closing (c :: rest) with
    | some rest => some ([], rest)
    | none =>
      if c = '\n' ∧ !tripled then none
      else (scanBody quote tripled rest).map fun (body, rest) => (c :: body, rest)

/-- The letters that may stand before a literal. -/
def literalMarks : List (List Char) :=
  ["".toList, "r".toList, "u".toList, "b".toList, "f".toList, "br".toList, "rb".toList,
    "fr".toList, "rf".toList]

/-- The letters, in lower case, and the quote with which a literal starts here, and what follows. -/
def literalStart? (text : List Char) : Option (List Char × Char × List Char) :=
  let letters := (text.takeWhile Char.isAlpha).map Char.toLower
  match text.dropWhile Char.isAlpha with
  | c :: rest =>
    if (c = '\'' ∨ c = '"') ∧ literalMarks.contains letters then some (letters, c, rest) else none
  | [] => none

def literalToken (letters body : List Char) : Option Token :=
  let raw := letters.contains 'r'
  if letters.contains 'b' then
    if body.all fun c => c.toNat < 0x80 then (contents raw true body).map .bytes else none
  else if letters.contains 'f' then
    (scanFormatted raw (body.length + 1) 0 [] body).map fun (sources, _) => .formatted sources
  else (contents raw false body).map fun codes => .text (codes.map .ofNat)

def scanLiteral (letters : List Char) (quote : Char) (text : List Char) :
    Option (Token × List Char) := do
  let (body, rest) ←
    match Text.after? [quote, quote] text with
    | some rest => scanBody quote true rest
    | none => scanBody quote false text
  let token ← literalToken letters body
  return (token, rest)

end MockApi.Predicate
