import MockApi.Template.Render

/-!
# Content from a template

* `Template.fill` : a template with a text in place of each of its leaves, made by a function that may
  have effects; lists, objects and nulls stay what they are;
* `Template.generate` : the same, where the leaves are rendered and then passed through a function of
  texts;
* `Template.scalars`, `Template.leaves` : the leaves, as values and rendered, in the order in which
  they are passed on.
-/

namespace MockApi.Template

variable {m : Type → Type} [Monad m]

def fillLeaf (f : Value → m Text) (v : Value) : m Value := do
  let text ← f v
  return .text text

mutual

/-- The template with a text in place of each leaf. -/
def fill (f : Value → m Text) : Value → m Value
  | .null => return .null
  | .bool b => fillLeaf f (.bool b)
  | .int n => fillLeaf f (.int n)
  | .float x => fillLeaf f (.float x)
  | .text s => fillLeaf f (.text s)
  | .list items => do
    let items ← fillItems f items
    return .list items
  | .object members => do
    let members ← fillMembers f members
    return .object members

def fillItems (f : Value → m Text) : List Value → m (List Value)
  | [] => return []
  | v :: rest => do
    let v ← fill f v
    let rest ← fillItems f rest
    return v :: rest

def fillMembers (f : Value → m Text) : List (Text × Value) → m (List (Text × Value))
  | [] => return []
  | (key, v) :: rest => do
    let v ← fill f v
    let rest ← fillMembers f rest
    return (key, v) :: rest

end

/-- The template with each leaf rendered and passed through `f`, where all integers in it can be
written. -/
def generate (f : Text → m Text) (template : Value) : m Value := fill (fun v => f v.written) template

mutual

/-- The leaves of a template that are not null, in order. -/
def scalars : Value → List Value
  | .null => []
  | .bool b => [.bool b]
  | .int n => [.int n]
  | .float x => [.float x]
  | .text s => [.text s]
  | .list items => itemScalars items
  | .object members => memberScalars members

def itemScalars : List Value → List Value
  | [] => []
  | v :: rest => scalars v ++ itemScalars rest

def memberScalars : List (Text × Value) → List Value
  | [] => []
  | (_, v) :: rest => scalars v ++ memberScalars rest

end

/-- The rendered leaves of a template, in order. -/
def leaves (template : Value) : List Text := (scalars template).map Value.written

def memberLeaves (members : Members Value) : List Text := (memberScalars members).map Value.written

end MockApi.Template
