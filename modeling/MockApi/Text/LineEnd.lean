import MockApi.Text.Utf8

/-!
# Text in files

* `ofBytes?` : the text of a file, with each line end written as a line feed.
-/

namespace MockApi.Text

/-- Characters with each line end written as a line feed. -/
def unifyLineEnds : List Char → List Char
  | [] => []
  | '\r' :: '\n' :: rest => '\n' :: unifyLineEnds rest
  | '\r' :: rest => '\n' :: unifyLineEnds rest
  | c :: rest => c :: unifyLineEnds rest

/-- The text of a file, unless it is not UTF-8. -/
def ofBytes? (bytes : List Nat) : Option String :=
  (decode? bytes).map fun text => String.ofList (unifyLineEnds text.toList)

end MockApi.Text
