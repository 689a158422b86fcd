import TypedRequests.TypeScript.Comment
import TypedRequests.TypeScript.Literal

/-!
# Type expressions

* `TypeExpr` : the types of generated code.
* `TypeExpr.references` : the names a type refers to, each once, in the order of first use.
* `TypeExpr.text` : the printed type.
-/

set_option autoImplicit false

namespace TypedRequests.TypeScript

/-- A member of an object type or interface. -/
structure Member (τ : Type) where
  name : String
  type : τ
  optional : Bool
  comment : Option String
deriving DecidableEq, Repr

/-- A type of generated code. -/
inductive TypeExpr where
  | string
  | number
  | boolean
  | array (item : TypeExpr)
  | object (members : List (Member TypeExpr))
  /-- An object with values of one type under any names. -/
  | map (value : TypeExpr)
  | reference (name : String)
  /-- The type of an object of which nothing is known. -/
  | any
  | unknown
deriving Repr, Inhabited

namespace TypeExpr

/-! ## References -/

mutual

/-- Every reference in a type, in order. -/
def names : TypeExpr → List String
  | reference name => [name]
  | array item => names item
  | map value => names value
  | object members => memberNames members
  | string | number | boolean | any | unknown => []

/-- Every reference in the types of members, in order. -/
def memberNames : List (Member TypeExpr) → List String
  | [] => []
  | m :: ms => names m.type ++ memberNames ms

end

/-- The names a type refers to, each once. -/
def references (t : TypeExpr) : List String :=
  t.names.eraseDups

/-! ## Printing -/

/-- The indentation of lines at a depth of nesting. -/
def indent (depth : Nat) : List Char :=
  List.replicate (2 * depth) ' '

/-- The text before the type of a member. -/
def memberHead (depth : Nat) (name : String) (optional : Bool) (comment : Option String) :
    List Char :=
  (comment.elim [] fun c => (docComment (String.ofList (indent depth)) c).toList)
    ++ indent depth ++ (propertyKey name).toList ++ (if optional then ['?'] else []) ++ [':', ' ']

/-- The text before the value type of a map. -/
def indexHead (depth : Nat) : List Char :=
  indent depth ++ "[prop: string]: ".toList

mutual

/-- A printed type whose closing brace is at `depth`. -/
def chars (depth : Nat) : TypeExpr → List Char
  | string => "string".toList
  | number => "number".toList
  | boolean => "boolean".toList
  | array item => chars depth item ++ ['[', ']']
  | object [] => ['\x7b', '\x7d']
  | object (m :: ms) =>
    '\x7b' :: '\n' :: memberChars (depth + 1) (m :: ms) ++ indent depth ++ ['\x7d']
  | map value =>
    '\x7b' :: '\n' :: indexHead (depth + 1) ++ chars (depth + 1) value ++ [';', '\n']
      ++ indent depth ++ ['\x7d']
  | reference name => name.toList
  | any => "any".toList
  | unknown => "unknown".toList

/-- Printed members, each on a line of its own. -/
def memberChars (depth : Nat) : List (Member TypeExpr) → List Char
  | [] => []
  | m :: ms =>
    memberHead depth m.name m.optional m.comment ++ chars depth m.type ++ [';', '\n']
      ++ memberChars depth ms

end

/-- A printed type. -/
def text (t : TypeExpr) : String :=
  String.ofList (t.chars 0)

end TypeExpr

end TypedRequests.TypeScript
