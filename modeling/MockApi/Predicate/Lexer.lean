import MockApi.Predicate.Literal
import MockApi.Predicate.Numeral
import MockApi.Text.Identifier
import MockApi.Text.NormalForm

/-!
# From source to tokens

* `lex` : the tokens of a source.

Inside of brackets a line may end anywhere. Outside of them the end of a line is the end of the
expression, and only comments may follow, or precede it.
-/

namespace MockApi.Predicate

/-- The most brackets that may be open at once. -/
def maxBrackets : Nat := 200

def Token.ofWord (word : List Char) : Token :=
  if isReserved (String.ofList word) then .word (String.ofList word)
  else .name (String.ofList (Text.normalForm word))

/-- A name or a reserved word, and what follows it. A name counts in its normal form, which may be
that of a reserved word. -/
def scanWord (text : List Char) : Option (Token × List Char) :=
  let word := text.takeWhile isWordChar
  if Text.isIdentifier word then some (.ofWord word, text.dropWhile isWordChar) else none

/-- An operator or a delimiter, and what follows it. -/
def scanMark (text : List Char) : Option (Token × List Char) :=
  marks.findSome? fun mark => (Text.after? mark.toList text).map fun rest => (.mark mark, rest)

/-- The token that starts here, and what follows it. -/
def scanToken (text : List Char) : Option (Token × List Char) :=
  match literalStart? text with
  | some (letters, quote, rest) => scanLiteral letters quote rest
  | none =>
    match text with
    | [] => none
    | c :: rest =>
      if c.isDigit ∨ (c = '.' ∧ rest.head?.any Char.isDigit) then
        (scanNumber text).map fun (c, rest) => (.number c, rest)
      else if isWordChar c then scanWord text
      else scanMark text

def depthAfter (depth : Nat) : Token → Nat
  | .mark "(" => depth + 1
  | .mark "[" => depth + 1
  | .mark "\x7b" => depth + 1
  | .mark ")" => depth - 1
  | .mark "]" => depth - 1
  | .mark "\x7d" => depth - 1
  | _ => depth

/-- What lies at the start of a line. -/
inductive LineStart where
  /-- Blanks up to here: `indented` tells whether there are any behind the last form feed, and `held`
  whether there were any before a line that a backslash continues. -/
  | blanks (indented held : Bool)
  | comment

/-- The text from the first line on that is neither blank nor a comment; it must not be indented.
A form feed takes back the indentation, but what stands before the first backslash stays. -/
def skipLines : LineStart → List Char → Option (List Char)
  | _, [] => some []
  | .comment, c :: rest => skipLines (if c = '\n' then .blanks false false else .comment) rest
  | .blanks indented held, c :: rest =>
    if c = ' ' ∨ c = '\t' then skipLines (.blanks true held) rest
    else if c = '\x0C' then skipLines (.blanks false held) rest
    else if c = '\n' then skipLines (.blanks false false) rest
    else if c = '#' then skipLines .comment rest
    else
      match c, rest with
      | '\\', '\n' :: c :: rest => skipLines (.blanks indented (held || indented)) (c :: rest)
      | '\\', _ => none
      | c, rest => if indented || held then none else some (c :: rest)

/-- The tokens from here on, with `depth` brackets open. -/
def lexFrom : (fuel depth : Nat) → List Char → Option (List Token)
  | 0, _, _ => none
  | _ + 1, _, [] => some []
  | fuel + 1, depth, c :: rest =>
    if c = '\n' then
      if depth ≠ 0 then lexFrom fuel depth rest
      else if skipLines (.blanks false false) rest = some [] then some []
      else none
    else if isSourceGap c then lexFrom fuel depth rest
    else if c = '#' then lexFrom fuel depth (rest.dropWhile (· ≠ '\n'))
    else if c = '\\' then
      match rest with
      | '\n' :: c :: rest => lexFrom fuel depth (c :: rest)
      | _ => none
    else do
      let (token, rest) ← scanToken (c :: rest)
      let depth := depthAfter depth token
      if maxBrackets < depth then none
      else
        let tokens ← lexFrom fuel depth rest
        return token :: tokens

/-- The text with every line end written as a single line feed. -/
def unifyLineEnds : List Char → List Char
  | [] => []
  | '\r' :: '\n' :: rest => '\n' :: unifyLineEnds rest
  | c :: rest => (if c = '\r' then '\n' else c) :: unifyLineEnds rest

def lex (source : List Char) : Option (List Token) := do
  let text := unifyLineEnds source
  let text ← skipLines (.blanks false false) text
  lexFrom (text.length + 1) 0 text

end MockApi.Predicate
