import MockApi.Predicate.Name
import MockApi.Predicate.Parser
import MockApi.Text.Blank
import MockApi.Text.Utf8

/-!
# Which expressions are predicates

* `Objection` : why a source is no predicate, and its wording;
* `check` : whether an expression uses nothing but what predicates may use;
* `Predicate`, `Predicate.ofSource` : the predicate that a source denotes.

Of several objections the first one counts, in the order in which the parts of the expression are
written, except that the test of a choice comes first.
-/

namespace MockApi.Predicate

/-- Why a source is no predicate. -/
inductive Objection where
  | blank
  /-- The source holds halves of pairs on their own: where, the first of them, and how many. -/
  | halves (position : Nat) (first : CodePoint) (count : Nat)
  /-- The source holds a null character. -/
  | nullCharacter
  | malformed (source : String)
  | part (kind : String)
  | constant (shown : String)
  | uncalled (function : String)
  | unknownName (name : String)
  | hidden
  | notHelper
  | notPositional (function : String)
  | operator (name : String)
  deriving DecidableEq, Repr

def halvesMessage (position : Nat) (first : CodePoint) (count : Nat) : String :=
  let place :=
    if count = 1 then
      "character " ++ Text.quoted [first] ++ " in position " ++ toString position
    else
      "characters in position " ++ toString position ++ "-" ++ toString (position + count - 1)
  "'utf-8' codec can't encode " ++ place ++ ": surrogates not allowed"

def Objection.message : Objection → String
  | .blank => "Predicate must be a non-empty string"
  | .halves position first count => halvesMessage position first count
  | .nullCharacter => "source code string cannot contain null bytes"
  | .malformed source => "Invalid predicate syntax in " ++ Text.quoted source
  | .part kind => "Disallowed syntax: " ++ kind
  | .constant shown => "Disallowed constant: " ++ shown
  | .uncalled function => "Function " ++ function ++ "() must be called"
  | .unknownName name => "Unknown name: " ++ name
  | .hidden => "Private attributes are not allowed"
  | .notHelper => "Only helper functions may be called"
  | .notPositional function => "Only positional arguments are allowed in " ++ function ++ "()"
  | .operator name => "Disallowed operator: " ++ name

def require (condition : Bool) (objection : Objection) : Except Objection Unit :=
  if condition then .ok () else .error objection

/-- Objects to a literal that predicates do not use. -/
def checkConstant : Constant → Except Objection Unit
  | .foreign shown => .error (.constant shown)
  | _ => .ok ()

/-- Objects to a name that is no root. -/
def checkName (id : String) : Except Objection Unit :=
  if (Helper.ofName? id).isSome then .error (.uncalled id)
  else require (Root.ofName? id).isSome (.unknownName id)

def checkBinaryOp : BinaryOp → Except Objection Unit
  | .foreign name => .error (.operator name)
  | _ => .ok ()

def checkUnaryOp : UnaryOp → Except Objection Unit
  | .foreign name => .error (.operator name)
  | _ => .ok ()

/-- The name of the function that is called, which must be a helper. -/
def calledName (function : Expr) : Except Objection String :=
  match function with
  | .name id => if (Helper.ofName? id).isSome then .ok id else .error .notHelper
  | _ => .error .notHelper

mutual

/-- Whether an expression uses nothing but what predicates may use. -/
def check : Expr → Except Objection Unit
  | .constant c => checkConstant c
  | .name id => checkName id
  | .attribute base name => do
    require (name.toList.head? != some '_') .hidden
    check base
  | .subscript base key => do
    check base
    check key
  | .list items => checkAll items
  | .tuple items => checkAll items
  | .logic _ operands => checkAll operands
  | .unary op operand => do
    checkUnaryOp op
    check operand
  | .binary op left right => do
    checkBinaryOp op
    check left
    check right
  | .compare first rest => do
    check first
    checkRelated rest
  | .choice test yes no => do
    check test
    check yes
    check no
  | .call function arguments named => do
    let id ← calledName function
    require (!named && !arguments.any Expr.isStarred) (.notPositional id)
    checkAll arguments
  | .starred _ => .error (.part "Starred")
  | .foreign kind => .error (.part kind)

def checkAll : List Expr → Except Objection Unit
  | [] => .ok ()
  | e :: rest => do
    check e
    checkAll rest

/-- Checks the operands of a chain of comparisons in order. -/
def checkRelated : List (Relation × Expr) → Except Objection Unit
  | [] => .ok ()
  | (_, e) :: rest => do
    check e
    checkRelated rest

end

end Predicate

/-- An expression that uses nothing but what predicates may use, with its source. -/
structure Predicate where
  source : String
  expr : Predicate.Expr
  allowed : Predicate.check expr = .ok ()

namespace Predicate

def ofExpr (source : String) (expr : Expr) : Except Objection Predicate :=
  match h : check expr with
  | .ok () => .ok ⟨source, expr, h⟩
  | .error objection => .error objection

/-- The predicate that a source denotes, of which blanks at the ends are ignored. -/
def ofSource (source : Text) : Except Objection Predicate := do
  let stripped := Text.strip source
  if stripped.isEmpty then throw .blank
  match Text.halves? stripped with
  | some (position, first, count) => throw (.halves position first count)
  | none => pure ()
  let text := Text.lossy stripped
  if text.toList.contains '\x00' then throw .nullCharacter
  match parse text with
  | none => throw (.malformed (Text.lossy source))
  | some expr => ofExpr (Text.lossy source) expr

end MockApi.Predicate
