import TypedRequests.Json.Basic

/-!
# Templates

A template is a text with expressions in double braces and statements in braces with percent signs.

* `Template.Expr` : expressions, with conditions among them.
* `Template.Block` : the parts of a template.
-/

set_option autoImplicit false

namespace TypedRequests.Template

/-- An expression. A condition is an expression, too. -/
inductive Expr where
  | literal (v : Scalar)
  | ident (name : String)
  /-- The value of a function. -/
  | call (function : String)
  /-- Texts put together. -/
  | concat (parts : List Expr)
  /-- A test of a variable. -/
  | test (ident : String) (negated : Bool) (test : String) (args : List Expr)
  | sum (l r : Expr)
  /-- Filters with named arguments, applied from left to right. -/
  | filtered (e : Expr) (filters : List (String × List (String × Expr)))
  | equal (l r : Expr)
  | unequal (l r : Expr)
  | and (l r : Expr)
  | or (l r : Expr)
  | not (e : Expr)
deriving Repr, Inhabited

/-- A part of a template. -/
inductive Block where
  | text (s : String)
  /-- The value of an expression is written. -/
  | print (e : Expr)
  /-- A variable gets a value. -/
  | set (name : String) (e : Expr)
  /-- The blocks of the first branch whose condition holds, or else the last ones. -/
  | choice (branches : List (Expr × List Block)) (otherwise : List Block)
deriving Repr, Inhabited

end TypedRequests.Template

namespace TypedRequests

/-- A template with the name that messages give it. -/
structure Template where
  name : String
  blocks : List Template.Block
deriving Repr

end TypedRequests
