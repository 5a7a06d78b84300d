import MockApi.Text.Digit

/-!
# Base 64

* `Base64.decode` : the bytes that a text stands for.

Characters outside of the alphabet are ignored, and nothing is read behind a complete padding.
-/

namespace MockApi.Text.Base64

/-- The value of a character of the alphabet. -/
def sextet? (c : CodePoint) : Option Nat :=
  if 0x41 ≤ c.toNat ∧ c.toNat ≤ 0x5A then some (c.toNat - 0x41)
  else if 0x61 ≤ c.toNat ∧ c.toNat ≤ 0x7A then some (c.toNat - 0x61 + 26)
  else if isAsciiDigit c then some (c.toNat - 0x30 + 52)
  else if c = '+' then some 62
  else if c = '/' then some 63
  else none

/-- Reads on, where `place` characters of a group of four have been read, `kept` are the bits that
belong to no byte yet, and `pads` padding characters came last. There is no answer if the text ends
inside of a group. -/
def decodeFrom (place kept pads : Nat) : Text → Option (List Nat)
  | [] => if place = 0 then some [] else none
  | c :: rest =>
    if c = '=' then
      if 2 ≤ place then
        if 4 ≤ place + pads + 1 then some [] else decodeFrom place kept (pads + 1) rest
      else decodeFrom place kept pads rest
    else
      match sextet? c with
      | none => decodeFrom place kept pads rest
      | some v =>
        match place with
        | 0 => decodeFrom 1 v 0 rest
        | 1 => (decodeFrom 2 (v % 16) 0 rest).map ((kept * 4 + v / 16) :: ·)
        | 2 => (decodeFrom 3 (v % 4) 0 rest).map ((kept * 16 + v / 4) :: ·)
        | _ => (decodeFrom 0 0 0 rest).map ((kept * 64 + v) :: ·)

def decode (text : Text) : Option (List Nat) := decodeFrom 0 0 0 text

end MockApi.Text.Base64
