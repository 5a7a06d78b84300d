import MockApi.Json.Value
import MockApi.Number.DoubleText
import MockApi.Text.Quoted

/-!
# Values in messages

* `Value.shown` : a value as messages show it, with texts in quotes;
* `Value.plain` : the same, where a text alone stands without quotes.
-/

namespace MockApi

def shownList (items : List String) : String := "[" ++ Text.joinWith ", " items ++ "]"

def shownObject (members : List String) : String :=
  "\x7b" ++ Text.joinWith ", " members ++ "\x7d"

namespace Value

mutual

/-- The value as messages show it. -/
def shown : Value → String
  | .null => "None"
  | .bool b => if b then "True" else "False"
  | .int n => toString n
  | .float x => x.text
  | .text s => Text.quoted s
  | .list items => shownList (shownItems items)
  | .object members => shownObject (shownMembers members)

def shownItems : List Value → List String
  | [] => []
  | v :: rest => shown v :: shownItems rest

def shownMembers : List (Text × Value) → List String
  | [] => []
  | (key, v) :: rest => (Text.quoted key ++ ": " ++ shown v) :: shownMembers rest

end

/-- The value as messages show it, where a text stands without quotes. -/
def plain : Value → Text
  | .text s => s
  | v => v.shown

end Value

end MockApi
