import MockApi.Path.Read
import MockApi.Template.Render
import MockApi.Text.Casing

/-!
# Placeholders

A placeholder is a name in braces. The name is a dotted path into the context of a request.

* `Placeholder.pieces` : a text cut into placeholders and what is between them;
* `Placeholder.names` : the names of its placeholders, in order;
* `Placeholder.interpret` : the text with its placeholders replaced by what they name.
-/

namespace MockApi.Placeholder

/-- A character of a name: an ASCII letter or digit, a point, a hyphen, an underscore, or one of the
four other characters that differ from an ASCII letter only in case. -/
def isNameCode (c : CodePoint) : Bool :=
  c.char?.any fun c =>
    c.isAlphanum || c = '.' || c = '-' || c = '_' || c = 'ſ' || c = '\u212A' || c = 'İ' || c = 'ı'

/-- A part of a text. -/
inductive Piece where
  | literal (text : Text)
  | hole (name : Text)
  deriving DecidableEq, Repr

/-- The text a piece was cut from. -/
def Piece.source : Piece → Text
  | .literal text => text
  | .hole name => .ofChar '{' :: name ++ [.ofChar '}']

/-- Cuts a text. `opened` is what was passed since a brace that may open a placeholder, last code
point first. -/
def scan : (opened : Option Text) → Text → List Piece
  | none, [] => []
  | some passed, [] => [.literal (.ofChar '{' :: passed.reverse)]
  | none, c :: rest => if c = '{' then scan (some []) rest else .literal [c] :: scan none rest
  | some passed, c :: rest =>
    if isNameCode c then scan (some (c :: passed)) rest
    else if c = '}' ∧ passed ≠ [] then .hole passed.reverse :: scan none rest
    else
      .literal (.ofChar '{' :: passed.reverse) ::
        if c = '{' then scan (some []) rest else .literal [c] :: scan none rest

/-- The text cut into placeholders and what is between them. -/
def pieces (text : Text) : List Piece := scan none text

def Piece.name? : Piece → Option Text
  | .literal _ => none
  | .hole name => some name

def names (text : Text) : List Text := (pieces text).filterMap Piece.name?

/-- What stands for a placeholder: the rendered value its path leads to, if there is one. With
`lowered` the name is taken in lower case. -/
def valueText? (context : Value) (lowered : Bool) (name : Text) :
    Except IntegerFault (Option Text) :=
  match Path.parse? (if lowered then Text.lower name else name) with
  | none => .ok none
  | some path => do
    let v ← path.get false context
    if v.isNull then return none
    let text ← v.render
    return some text

/-- The text with `old` replaced by `new` at its first occurrence. -/
def replaceFirst (old new text : Text) : Text :=
  match Text.splitAtFirst old text with
  | none => text
  | some (before, after) => before ++ new ++ after

/-- Replaces the first placeholder of that name that is left in the text. -/
def fill (context : Value) (lowered : Bool) (text name : Text) : Except IntegerFault Text := do
  match ← valueText? context lowered name with
  | none => return text
  | some new => return replaceFirst (Piece.hole name).source new text

/-- The text with its placeholders replaced, one after the other, by what they name in the context.
A placeholder that names nothing stays. -/
def interpret (context : Value) (lowered : Bool) (text : Text) : Except IntegerFault Text :=
  (names text).foldlM (fill context lowered) text

/-! ## Cutting loses nothing -/

theorem source_scan (opened : Option Text) (text : Text) :
    (scan opened text).flatMap Piece.source =
      (opened.elim [] fun passed => .ofChar '{' :: passed.reverse) ++ text := by
  induction text generalizing opened with
  | nil => cases opened <;> simp [scan, Piece.source]
  | cons c rest ih =>
    cases opened with
    | none => by_cases h : c = '{' <;> simp [scan, h, ih, Piece.source]
    | some passed =>
      by_cases hname : isNameCode c
      · simp [scan, hname, ih]
      · by_cases hclose : c = '}' ∧ passed ≠ []
        · obtain ⟨rfl, hne⟩ := hclose
          simp [scan, hname, hne, ih, Piece.source]
        · rw [scan, if_neg hname, if_neg hclose]
          by_cases hopen : c = '{' <;> simp [hopen, ih, Piece.source]

theorem source_pieces (text : Text) : (pieces text).flatMap Piece.source = text := by
  simp [pieces, source_scan]

/-! ## The names of placeholders -/

/-- A placeholder has a name, and all of it are characters of names. -/
theorem isNameCode_of_hole_mem_scan {opened : Option Text} {text name : Text}
    (hopened : ∀ passed ∈ opened, ∀ c ∈ passed, isNameCode c = true)
    (h : .hole name ∈ scan opened text) : name ≠ [] ∧ ∀ c ∈ name, isNameCode c = true := by
  induction text generalizing opened with
  | nil => cases opened <;> simp [scan] at h
  | cons c rest ih =>
    cases opened with
    | none =>
      by_cases hopen : c = '{'
      · rw [scan, if_pos hopen] at h
        exact ih (by simp) h
      · rw [scan, if_neg hopen] at h
        replace h : .hole name ∈ scan none rest := by simpa using h
        exact ih (by simp) h
    | some passed =>
      have hpassed := hopened passed rfl
      by_cases hname : isNameCode c = true
      · rw [scan, if_pos hname] at h
        refine ih ?_ h
        rintro _ ⟨⟩ d hd
        obtain rfl | hd := List.mem_cons.1 hd
        · exact hname
        · exact hpassed d hd
      · rw [scan, if_neg hname] at h
        split at h
        · next hclose =>
          obtain heq | h := List.mem_cons.1 h
          · cases heq
            simpa using ⟨hclose.2, hpassed⟩
          · exact ih (by simp) h
        · split at h
          · replace h : .hole name ∈ scan (some []) rest := by simpa using h
            exact ih (by simp) h
          · replace h : .hole name ∈ scan none rest := by simpa using h
            exact ih (by simp) h

theorem isNameCode_of_hole_mem {text name : Text} (h : .hole name ∈ pieces text) :
    name ≠ [] ∧ ∀ c ∈ name, isNameCode c = true :=
  isNameCode_of_hole_mem_scan (by simp) h

end MockApi.Placeholder
