import MockApi.Json.Value
import MockApi.Number.DoubleText
import MockApi.Text.Digit

/-!
# Writing JSON

* `Json.quote` : a text as a JSON string;
* `Value.compact` : a value without any blanks, all code points but controls as they are;
* `Value.indented` : a value over several lines, each level indented by two blanks, in ASCII.
-/

namespace MockApi

namespace Json

/-- One code unit of sixteen bits as an escape. -/
def escapeUnit (n : Nat) : Text := "\\u" ++ Text.ofChars (Text.hexText 4 n)

/-- A code point as one or two escaped code units. -/
def escapeUnits (n : Nat) : Text :=
  if n < 0x10000 then escapeUnit n
  else
    let n := n - 0x10000
    escapeUnit (0xD800 + n / 0x400) ++ escapeUnit (0xDC00 + n % 0x400)

/-- One code point of a JSON string; with `ascii`, what is not printable ASCII is escaped. -/
def escape (ascii : Bool) (c : CodePoint) : Text :=
  if c = '"' ∨ c = '\\' then [.ofChar '\\', c]
  else if c = '\n' then "\\n"
  else if c = '\r' then "\\r"
  else if c = '\t' then "\\t"
  else if c = '\x08' then "\\b"
  else if c = '\x0C' then "\\f"
  else if c.toNat < 0x20 then escapeUnit c.toNat
  else if !ascii || c.toNat < 0x7F then [c]
  else escapeUnits c.toNat

def quote (ascii : Bool) (text : Text) : Text := "\"" ++ text.flatMap (escape ascii) ++ "\""

def bracket (items : List Text) : Text := "[" ++ Text.join "," items ++ "]"

def brace (members : List Text) : Text := "\x7b" ++ Text.join "," members ++ "\x7d"

/-- A new line, indented to a level. -/
def newLine (level : Nat) : String := String.ofList ('\n' :: List.replicate (2 * level) ' ')

/-- Parts between an opening and a closing mark, each on a line of its own. -/
def block (level : Nat) (opening closing : String) : List String → String
  | [] => opening ++ closing
  | parts =>
    let line := newLine (level + 1)
    opening ++ line ++ Text.joinWith ("," ++ line) parts ++ newLine level ++ closing

end Json

namespace Value

mutual

/-- The value as JSON without blanks. -/
def compact : Value → Text
  | .null => "null"
  | .bool b => if b then "true" else "false"
  | .int n => toString n
  | .float x => x.jsonText
  | .text s => Json.quote false s
  | .list items => Json.bracket (compactItems items)
  | .object members => Json.brace (compactMembers members)

def compactItems : List Value → List Text
  | [] => []
  | v :: rest => compact v :: compactItems rest

def compactMembers : List (Text × Value) → List Text
  | [] => []
  | (key, v) :: rest => (Json.quote false key ++ ":" ++ compact v) :: compactMembers rest

end

mutual

/-- The value as JSON over several lines, from a level of indentation. -/
def indentedAt (level : Nat) : Value → String
  | .null => "null"
  | .bool b => if b then "true" else "false"
  | .int n => toString n
  | .float x => x.jsonText
  | .text s => Text.lossy (Json.quote true s)
  | .list items => Json.block level "[" "]" (indentedItems (level + 1) items)
  | .object members => Json.block level "\x7b" "\x7d" (indentedMembers (level + 1) members)

def indentedItems (level : Nat) : List Value → List String
  | [] => []
  | v :: rest => indentedAt level v :: indentedItems level rest

def indentedMembers (level : Nat) : List (Text × Value) → List String
  | [] => []
  | (key, v) :: rest =>
    (Text.lossy (Json.quote true key) ++ ": " ++ indentedAt level v) :: indentedMembers level rest

end

def indented (v : Value) : String := indentedAt 0 v

end Value

end MockApi
