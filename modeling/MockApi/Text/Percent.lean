import MockApi.Text.Digit
import MockApi.Text.Utf8

/-!
# Percent encoding

* `percentDecode` : text in which bytes may stand as a percent sign and two hexadecimal digits;
* `percentEncode` : text in which all but some characters stand so;
* `formPairs` : the names and values of a query or of a form.
-/

namespace MockApi.Text

/-- The bytes of ASCII characters, in which a percent sign and two hexadecimal digits stand for one
byte. A percent sign in front of anything else stands for itself. -/
def percentBytes : List Char → List Nat
  | [] => []
  | '%' :: a :: b :: rest =>
    match hexValue? a, hexValue? b with
    | some high, some low => (16 * high + low) :: percentBytes rest
    | _, _ => '%'.toNat :: percentBytes (a :: b :: rest)
  | c :: rest => c.toNat :: percentBytes rest

/-- Decodes characters, where `run` are the ASCII characters that came last, nearest first. The
bytes of each run are read as UTF-8 on their own. -/
def percentDecodeFrom (run : List Char) : List Char → List Char
  | [] => (decodeLossy (percentBytes run.reverse)).toList
  | c :: rest =>
    if c.toNat < 0x80 then percentDecodeFrom (c :: run) rest
    else (decodeLossy (percentBytes run.reverse)).toList ++ c :: percentDecodeFrom [] rest

def percentDecode (text : List Char) : String := String.ofList (percentDecodeFrom [] text)

/-- A character that no address needs to encode. -/
def isUnreserved (c : Char) : Bool := c.isAlphanum || "_.-~".toList.contains c

def percentByte (b : Nat) : List Char := '%' :: (hexText 2 b).map Char.toUpper

/-- A text in which all characters but the unreserved and the given ones are encoded. -/
def percentEncode (kept : List Char) (text : String) : String :=
  String.ofList <| text.toList.flatMap fun c =>
    if isUnreserved c || kept.contains c then [c] else (encodeChar c).flatMap percentByte

/-- The text of a name or of a value, in which a plus sign stands for a space. -/
def formText (text : List Char) : String :=
  percentDecode (text.map fun c => if c = '+' then ' ' else c)

/-- The name and the value of a field; a field without an equals sign has the empty value. -/
def formPair (field : List Char) : String × String :=
  (formText (field.takeWhile (· ≠ '=')), formText ((field.dropWhile (· ≠ '=')).drop 1))

/-- The names and values of a query or of a form, in order. Empty fields are left out. -/
def formPairs (text : String) : List (String × String) :=
  ((fields '&' text.toList).filter fun field => !field.isEmpty).map formPair

end MockApi.Text
