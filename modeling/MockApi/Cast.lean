import MockApi.Number.Numeral
import MockApi.Template.Render
import MockApi.Text.Casing

/-!
# Casts

Generated content is text. A cast gives a leaf its type back; where it cannot, a diagnostic in
angle brackets takes the place of the value. No integer that a cast reads or makes has more digits than
are written, so a value that was cast before is rendered without a fault.

* `CastKind` : the types a value can be cast to;
* `CastKind.apply` : the cast;
* `plainNumber?` : the numbers that a cast reads.
-/

namespace MockApi

/-- The types a value can be cast to. -/
inductive CastKind where
  | number
  | boolean
  | text
  deriving DecidableEq, Repr

namespace CastKind

def name : CastKind → String
  | .number => "number"
  | .boolean => "boolean"
  | .text => "string"

def all : List CastKind := [.number, .boolean, .text]

def ofName? (name : Text) : Option CastKind := all.find? fun kind => name = kind.name

end CastKind

/-- The number a text denotes: an integer, or else a finite number with a fraction or an exponent,
in ASCII and without underscores. -/
def plainNumber? (text : Text) : Option Value :=
  let text := Text.strip text
  if text.all fun c => c.toNat < 0x80 && c ≠ '_' then
    match readInteger text with
    | .ok n => some (.int n)
    | .error _ =>
      match readDouble? text with
      | some x => if x.isFinite then some (.float x) else none
      | none => none
  else none

def missingDiagnostic (kindName : Text) : Value :=
  .text ("<cannot cast missing value as " ++ kindName ++ ">")

/-- The diagnostic that stands for a text that denotes no value of a type. -/
def unreadableDiagnostic (text : Text) (typeName : String) : Value :=
  .text ("<\"" ++ text ++ "\" is not a " ++ typeName ++ ">")

/-- A value cast to a number; a number stays what it is. -/
def castNumber (v : Value) : Value :=
  match v with
  | .int _ => v
  | .float _ => v
  | _ => (plainNumber? v.written).getD (unreadableDiagnostic v.written "number")

/-- A value cast to a truth value, whatever the case of its text. -/
def castBoolean (v : Value) : Value :=
  let word := Text.lower v.written
  if word = "true" then .bool true
  else if word = "false" then .bool false
  else unreadableDiagnostic v.written "boolean"

def CastKind.apply (kind : CastKind) (v : Value) : Value :=
  if v.isNull then missingDiagnostic kind.name
  else
    match kind with
    | .number => castNumber v
    | .boolean => castBoolean v
    | .text => .text v.written

/-- A cast to a kind that is no kind. -/
structure UnknownKind where
  name : Text
  deriving DecidableEq, Repr

def UnknownKind.message (e : UnknownKind) : String :=
  "Unsupported cast type " ++ Text.quoted e.name

/-- A value cast to the kind of a name; only a value that is there needs a kind that exists. -/
def castNamed (name : Text) (v : Value) : Except UnknownKind Value :=
  if v.isNull then .ok (missingDiagnostic name)
  else
    match CastKind.ofName? name with
    | some kind => .ok (kind.apply v)
    | none => .error ⟨name⟩

end MockApi
