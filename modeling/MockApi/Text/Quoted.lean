import MockApi.Text.Digit
import MockApi.Text.PrintableTable

/-!
# Quoted text

* `quoted` : a text as messages show it, between quotes and with escapes for what cannot be
  printed;
* `quotedBytes` : the same for a sequence of bytes.

The quote is a single one, unless the text holds a single quote and no double quote.
-/

namespace MockApi.Text

def isPrintable (c : CodePoint) : Bool :=
  if c.toNat < 0x7F then 0x20 ≤ c.toNat else !inRanges unprintableRanges c.toNat

def chooseQuote (text : Text) : Char :=
  if text.contains (.ofChar '\'') && !text.contains (.ofChar '"') then '"' else '\''

/-- A code point by the shortest of the escapes with two, four or eight digits. -/
def escapeCode (n : Nat) : List Char :=
  if n < 0x100 then '\\' :: 'x' :: hexText 2 n
  else if n < 0x10000 then '\\' :: 'u' :: hexText 4 n
  else '\\' :: 'U' :: hexText 8 n

/-- One code point of a quoted text; half a pair is never printed. -/
def escapeChar (quote : Char) (c : CodePoint) : List Char :=
  if c = '\n' then ['\\', 'n']
  else if c = '\r' then ['\\', 'r']
  else if c = '\t' then ['\\', 't']
  else
    match c.char? with
    | some d =>
      if d = quote ∨ d = '\\' then ['\\', d]
      else if isPrintable c then [d]
      else escapeCode c.toNat
    | none => escapeCode c.toNat

def quoted (text : Text) : String :=
  let quote := chooseQuote text
  String.ofList (quote :: text.flatMap (escapeChar quote) ++ [quote])

def escapeByte (quote : Char) (b : Nat) : List Char :=
  if b < 0x7F then escapeChar quote (.ofNat b) else escapeCode b

/-- A sequence of bytes between quotes, marked by a `b`. -/
def quotedBytes (bytes : List Nat) : String :=
  let quote := chooseQuote (bytes.map .ofNat)
  String.ofList ('b' :: quote :: bytes.flatMap (escapeByte quote) ++ [quote])

end MockApi.Text
