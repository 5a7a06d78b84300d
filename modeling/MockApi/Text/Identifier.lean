import MockApi.Text.IdentifierTable

/-!
# Identifiers

* `isIdentifierStart`, `isIdentifierPart` : the characters an identifier starts and goes on with;
* `isIdentifier` : the words that are identifiers.
-/

namespace MockApi.Text

def isIdentifierStart (c : Char) : Bool :=
  if c.toNat < 0x80 then c.isAlpha || c = '_' else inRanges identifierStartRanges c.toNat

def isIdentifierPart (c : Char) : Bool :=
  isIdentifierStart c ||
    if c.toNat < 0x80 then c.isDigit else inRanges identifierPartRanges c.toNat

def isIdentifier : List Char → Bool
  | [] => false
  | c :: rest => isIdentifierStart c && rest.all isIdentifierPart

end MockApi.Text
