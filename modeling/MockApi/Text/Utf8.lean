import MockApi.Text.CharRange

/-!
# UTF-8

* `encode` : the bytes of a string;
* `halves?` : the first halves that keep a text from having bytes;
* `decodeLossy` : the text of any bytes, with U+FFFD for each longest piece that cannot be
  continued to a character;
* `decode?` : the text of bytes that are UTF-8 throughout.

Bytes are natural numbers below 256.
-/

namespace MockApi.Text

def encodeChar (c : Char) : List Nat :=
  let n := c.toNat
  if n < 0x80 then [n]
  else if n < 0x800 then [0xC0 + n / 0x40, 0x80 + n % 0x40]
  else if n < 0x10000 then [0xE0 + n / 0x1000, 0x80 + n / 0x40 % 0x40, 0x80 + n % 0x40]
  else [0xF0 + n / 0x40000, 0x80 + n / 0x1000 % 0x40, 0x80 + n / 0x40 % 0x40, 0x80 + n % 0x40]

def encode (s : String) : List Nat := s.toList.flatMap encodeChar

/-- The first run of halves in a text: how many code points stand before it, its first code point and
its length. -/
def halves? (text : Text) : Option (Nat × CodePoint × Nat) :=
  let before := text.takeWhile fun c => !c.isHalf
  let run := (text.drop before.length).takeWhile CodePoint.isHalf
  run.head?.map fun c => (before.length, c, run.length)

/-- What a first byte promises: how many bytes follow, the range of the next one, and the bits it
gives to the code point. -/
def leadByte? (b : Nat) : Option (Nat × Nat × Nat × Nat) :=
  if b < 0x80 then some (0, 0, 0, b)
  else if b < 0xC2 then none
  else if b < 0xE0 then some (1, 0x80, 0xBF, b - 0xC0)
  else if b = 0xE0 then some (2, 0xA0, 0xBF, 0)
  else if b = 0xED then some (2, 0x80, 0x9F, 0xD)
  else if b < 0xF0 then some (2, 0x80, 0xBF, b - 0xE0)
  else if b = 0xF0 then some (3, 0x90, 0xBF, 0)
  else if b < 0xF4 then some (3, 0x80, 0xBF, b - 0xF0)
  else if b = 0xF4 then some (3, 0x80, 0x8F, 4)
  else none

/-- Reads bytes on from a state: `owed` continuation bytes are still due, of which the next lies
between `low` and `high`, and `code` is what has been read of the code point. `none` stands for
each place where bytes had to be given up. -/
def decodeFrom (owed low high code : Nat) : List Nat → List (Option Char)
  | [] => if owed = 0 then [] else [none]
  | b :: rest =>
    if owed ≠ 0 ∧ low ≤ b ∧ b ≤ high then
      let code := 0x40 * code + (b - 0x80)
      if owed = 1 then some (Char.ofNat code) :: decodeFrom 0 0 0 0 rest
      else decodeFrom (owed - 1) 0x80 0xBF code rest
    else
      let broken := if owed = 0 then [] else [none]
      match leadByte? b with
      | none => broken ++ none :: decodeFrom 0 0 0 0 rest
      | some (0, _, _, bits) => broken ++ some (Char.ofNat bits) :: decodeFrom 0 0 0 0 rest
      | some (more, low, high, bits) => broken ++ decodeFrom more low high bits rest

/-- The text of the bytes, with U+FFFD where they are not UTF-8. -/
def decodeLossy (bytes : List Nat) : String :=
  String.ofList ((decodeFrom 0 0 0 0 bytes).map fun c => c.getD '\uFFFD')

/-- The text of bytes that are UTF-8 throughout. -/
def decode? (bytes : List Nat) : Option String :=
  ((decodeFrom 0 0 0 0 bytes).mapM id).map String.ofList

end MockApi.Text
