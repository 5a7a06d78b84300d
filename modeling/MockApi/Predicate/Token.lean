import MockApi.Predicate.Expr

/-!
# Tokens

* `Token` : the tokens that the source of a predicate is made of;
* `marks` : the operators and delimiters;
* `isReserved` : the words that are no names.
-/

namespace MockApi.Predicate

/-- A token. -/
inductive Token where
  /-- A reserved word. -/
  | word (text : String)
  /-- A name, in normal form. -/
  | name (id : String)
  /-- A number. -/
  | number (c : Constant)
  /-- A text literal. -/
  | text (s : Text)
  /-- A literal of bytes. -/
  | bytes (bs : List Nat)
  /-- A literal with expressions inside, of which the sources are given. -/
  | formatted (sources : List (List Char))
  /-- An operator or a delimiter. -/
  | mark (text : String)
  deriving DecidableEq, Repr

def reserved : List String :=
  ["False", "None", "True", "and", "as", "assert", "async", "await", "break", "class", "continue",
    "def", "del", "elif", "else", "except", "finally", "for", "from", "global", "if", "import",
    "in", "is", "lambda", "nonlocal", "not", "or", "pass", "raise", "return", "try", "while",
    "with", "yield"]

def isReserved (word : String) : Bool := reserved.contains word

/-- The operators and delimiters, a longer one before those it starts with. -/
def marks : List String :=
  ["**=", "//=", "<<=", ">>=", "...", "**", "//", "<<", ">>", "<=", ">=", "==", "!=", "<>", "->",
    ":=", "+=", "-=", "*=", "/=", "%=", "&=", "|=", "^=", "@=", "+", "-", "*", "/", "%", "&", "|",
    "^", "~", "<", ">", "=", "(", ")", "[", "]", "\x7b", "\x7d", ",", ":", ".", ";", "@"]

end MockApi.Predicate
