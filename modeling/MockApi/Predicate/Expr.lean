import MockApi.Number.Double
import MockApi.Text.CodePoint

/-!
# Expressions

* `Constant` : a literal;
* `Expr` : the tree of an expression, before it is known whether predicates may use all of it;
* `BinaryOp`, `UnaryOp`, `Relation`, `Connective` : its operators.

The grammar of the source is wider than what predicates may use. A part that predicates never use
appears in the tree as `Expr.foreign` with the name of its kind, an operator of that sort as
`foreign` with its name.
-/

namespace MockApi.Predicate

/-- A literal. -/
inductive Constant where
  | null
  | bool (b : Bool)
  | int (n : Nat)
  | float (x : Double)
  | text (s : Text)
  /-- A literal that predicates do not use, as messages show it. -/
  | foreign (shown : String)
  deriving DecidableEq, Repr

/-- An operator between two operands. -/
inductive BinaryOp where
  | add
  | sub
  | mul
  | div
  | mod
  | foreign (name : String)
  deriving DecidableEq, Repr

/-- An operator before an operand. -/
inductive UnaryOp where
  | not
  | neg
  | pos
  | foreign (name : String)
  deriving DecidableEq, Repr

/-- A comparison of two operands. -/
inductive Relation where
  | eq
  | ne
  | lt
  | le
  | gt
  | ge
  | elem
  | notElem
  | same
  | notSame
  deriving DecidableEq, Repr

/-- A connective of truth values. -/
inductive Connective where
  | and
  | or
  deriving DecidableEq, Repr

/-- The tree of an expression. -/
inductive Expr where
  | constant (c : Constant)
  | name (id : String)
  | attribute (base : Expr) (name : String)
  | subscript (base key : Expr)
  | list (items : List Expr)
  | tuple (items : List Expr)
  | logic (op : Connective) (operands : List Expr)
  | unary (op : UnaryOp) (operand : Expr)
  | binary (op : BinaryOp) (left right : Expr)
  /-- A chain of comparisons. -/
  | compare (first : Expr) (rest : List (Relation × Expr))
  | choice (test yes no : Expr)
  /-- A call; `named` tells whether some argument is given by name. -/
  | call (function : Expr) (arguments : List Expr) (named : Bool)
  /-- An item that stands for the items of `inner`. -/
  | starred (inner : Expr)
  /-- A part that predicates never use. -/
  | foreign (kind : String)
  deriving Repr, Inhabited

end MockApi.Predicate
