import MockApi.Json.Value

/-!
# Checking documents

A document is checked as a whole: every problem is found, and each is reported with the place where
it is, in the order in which the parts of the document are declared.

* `Complaint` : what is wrong at a place; the rules of a sort of documents are a parameter;
* `Problem` : a complaint with its place;
* `Checked` : what a document denotes, or its problems;
* `Checked.both`, `Checked.each` : checks of several parts;
* `required`, `optional` : checks of the members of an object.
-/

namespace MockApi

/-- What is wrong at a place of a document. -/
inductive Complaint (ρ : Type) where
  /-- A member is missing. -/
  | missing
  | notText
  /-- Half a pair stands alone in a text. -/
  | brokenText
  | notList
  | notObject
  /-- Neither an object nor a record of the named sort. -/
  | notRecord (sort : String)
  | notInteger
  | unreadableInteger
  | fractionalInteger
  | notBoolean
  | unreadableBoolean
  /-- A list that must have an item has none. -/
  | noItem
  /-- A rule of the document is broken. -/
  | rule (broken : ρ)
  deriving Repr

def Complaint.message {ρ : Type} (ruleMessage : ρ → String) : Complaint ρ → String
  | .missing => "Field required"
  | .notText => "Input should be a valid string"
  | .brokenText =>
    "Input should be a valid string, unable to parse raw data as a unicode string"
  | .notList => "Input should be a valid list"
  | .notObject => "Input should be a valid dictionary"
  | .notRecord sort => "Input should be a valid dictionary or instance of " ++ sort
  | .notInteger => "Input should be a valid integer"
  | .unreadableInteger => "Input should be a valid integer, unable to parse string as an integer"
  | .fractionalInteger => "Input should be a valid integer, got a number with a fractional part"
  | .notBoolean => "Input should be a valid boolean"
  | .unreadableBoolean => "Input should be a valid boolean, unable to interpret input"
  | .noItem => "List should have at least 1 item after validation, not 0"
  | .rule broken => ruleMessage broken

/-- A complaint with its place. -/
structure Problem (ρ : Type) where
  /-- The way to the place, outermost member first. -/
  location : List Text
  complaint : Complaint ρ
  deriving Repr

/-- What a document denotes, or its problems. -/
abbrev Checked (ρ α : Type) := Except (List (Problem ρ)) α

namespace Checked

variable {ρ α β γ : Type}

/-- A complaint about the place that is being checked. -/
def complain (complaint : Complaint ρ) : Checked ρ α := .error [⟨[], complaint⟩]

/-- A broken rule at the place that is being checked. -/
def breaks (broken : ρ) : Checked ρ α := complain (.rule broken)

/-- A result whose failure breaks a rule. -/
def ofExcept {ε : Type} (broken : ε → ρ) (result : Except ε α) : Checked ρ α :=
  match result with
  | .ok a => .ok a
  | .error e => breaks (broken e)

/-- The check of a part, whose problems are placed under a segment. -/
def within (segment : Text) (result : Checked ρ α) : Checked ρ α :=
  result.mapError fun problems => problems.map fun p => { p with location := segment :: p.location }

/-- Two checks, with the problems of both. -/
def both (first : Checked ρ α) (second : Checked ρ β) : Checked ρ (α × β) :=
  match first, second with
  | .ok a, .ok b => .ok (a, b)
  | .ok _, .error ps => .error ps
  | .error ps, .ok _ => .error ps
  | .error ps, .error qs => .error (ps ++ qs)

/-- A check of each item, with the problems of all. -/
def each (f : α → Checked ρ β) : List α → Checked ρ (List β)
  | [] => .ok []
  | a :: rest => (both (f a) (each f rest)).map fun (b, bs) => b :: bs

def record (sort : String) : Value → Checked ρ (Members Value)
  | .object members => .ok members
  | _ => complain (.notRecord sort)

/-- The string of a text. -/
def wholeText (t : Text) : Checked ρ String :=
  match t.string? with
  | some s => .ok s
  | none => complain .brokenText

def text : Value → Checked ρ String
  | .text t => wholeText t
  | _ => complain .notText

/-- A member of an object whose names are not fixed: its name, and what is checked of its value. -/
def entry (name : Text) (value : Checked ρ α) : Checked ρ (Text × α) :=
  within (.ofString name.lossy) <|
    (both (within "[key]" (wholeText name)) value).map fun (_, a) => (name, a)

/-- The members of an object whose names are not fixed, with values of any kind. -/
def entries (members : Members α) : Checked ρ (Members α) :=
  each (fun (name, a) => entry name (.ok a)) members

/-- The first of the names that an object has, with its value. -/
def member? (members : Members Value) (names : List String) : Option (String × Value) :=
  names.findSome? fun (name : String) => (Members.get? members name).map fun v => (name, v)

/-- A member that an object must have, under the first of its names that is there. -/
def required (members : Members Value) (names : List String) (f : Value → Checked ρ α) :
    Checked ρ α :=
  match member? members names with
  | some (name, v) => within name (f v)
  | none => within (names.headD "") (complain .missing)

/-- A member that an object may have, under the first of its names that is there. -/
def optional (members : Members Value) (names : List String) (default : α)
    (f : Value → Checked ρ α) : Checked ρ α :=
  match member? members names with
  | some (name, v) => within name (f v)
  | none => .ok default

end Checked

end MockApi
