import MockApi.Text.CodePoint

/-!
# Fillers

* `Filler` : a function with a state that fills sample values into a text.
-/

namespace MockApi

/-- A function with a state that fills sample values into a text; `ε` are its errors. -/
abbrev Filler (σ ε : Type) := Text → ExceptT ε (StateM σ) Text

end MockApi
