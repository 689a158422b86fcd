import TypedRequests.Json.Printer
import TypedRequests.TypeScript.Type

/-!
# Statements and modules

* `Statement` : the top-level statements of generated modules.
* `Statement.references` : the type names a statement refers to.
* `Statement.text`, `Module.text` : the printed statement and module.
-/

set_option autoImplicit false

namespace TypedRequests.TypeScript

/-- The value of an enum member. -/
inductive Literal where
  | string (s : String)
  | integer (n : Int)
  | real (x : Binary64)
  | bool (b : Bool)
  | null
deriving DecidableEq, Repr

/-- A member of an enum. -/
structure EnumMember where
  name : String
  value : Literal
deriving DecidableEq, Repr

/-- An interface with named members and, for a map, the type of every value. -/
structure Interface where
  name : String
  doc : Option String
  members : List (Member TypeExpr)
  index : Option TypeExpr
deriving Repr

/-- An enum. -/
structure Enumeration where
  name : String
  doc : Option String
  members : List EnumMember
deriving Repr

/-- A name for a type. -/
structure Alias where
  name : String
  doc : Option String
  type : TypeExpr
deriving Repr

/-- A parameter of a function. -/
structure Parameter where
  name : String
  type : TypeExpr
deriving Repr

/-- A function that returns an expression. -/
structure Function where
  name : String
  doc : Option String
  parameters : List Parameter
  body : String
deriving Repr

/-- An import of names from a module. -/
structure Import where
  names : List String
  source : String
  /-- The names are only used as types. -/
  typeOnly : Bool
deriving DecidableEq, Repr

/-- A top-level statement. -/
inductive Statement where
  | interface (d : Interface)
  | enumeration (d : Enumeration)
  | alias (d : Alias)
  | function (d : Function)
  | importNames (d : Import)
deriving Repr

/-- The statements of a module, in order. -/
abbrev Module := List Statement

namespace Statement

/-- The statement is an import. -/
def isImport : Statement → Bool
  | .importNames _ => true
  | _ => false

/-- The name a statement declares. -/
def declaredName? : Statement → Option String
  | .interface d => some d.name
  | .enumeration d => some d.name
  | .alias d => some d.name
  | .function d => some d.name
  | .importNames _ => none

/-- The types in a statement, in order. -/
def types : Statement → List TypeExpr
  | .interface d => d.members.map Member.type ++ d.index.toList
  | .alias d => [d.type]
  | .function d => d.parameters.map Parameter.type
  | .enumeration _ | .importNames _ => []

/-- The type names a statement refers to, each once, in the order of first use. -/
def references (s : Statement) : List String :=
  (s.types.flatMap TypeExpr.names).eraseDups

end Statement

/-! ## Printing -/

/-- A printed literal. -/
def Literal.text : Literal → String
  | string s => stringLiteral s
  | integer n => String.ofList (Scalar.integerText n)
  | real x => NumberLayout.code.write x
  | bool true => "true"
  | bool false => "false"
  | null => "null"

/-- Texts joined with a separator. -/
def joined (separator : String) (texts : List String) : String :=
  separator.intercalate texts

/-- An expression without white space around it and without semicolons at its end. -/
def expressionText (body : String) : String :=
  String.ofList (Text.dropRightWhile (· == ';') (Text.trim body.toList))

/-- A printed interface. -/
def Interface.text (d : Interface) : String :=
  docCommentOf d.doc ++ "export interface " ++ d.name ++ " \x7b\n"
    ++ String.ofList (TypeExpr.memberChars 1 d.members)
    ++ (d.index.elim "" fun t =>
      String.ofList (TypeExpr.indexHead 1 ++ t.chars 1 ++ [';', '\n']))
    ++ "\x7d\n"

/-- A printed enum member. -/
def EnumMember.text (m : EnumMember) : String :=
  "  " ++ m.name ++ " = " ++ m.value.text ++ ",\n"

/-- A printed enum. -/
def Enumeration.text (d : Enumeration) : String :=
  docCommentOf d.doc ++ "export enum " ++ d.name ++ " \x7b\n"
    ++ String.join (d.members.map EnumMember.text) ++ "\x7d\n"

/-- A printed name for a type. -/
def Alias.text (d : Alias) : String :=
  docCommentOf d.doc ++ "export type " ++ d.name ++ " = " ++ d.type.text ++ ";\n"

/-- A printed parameter. -/
def Parameter.text (p : Parameter) : String :=
  p.name ++ ": " ++ p.type.text

/-- A printed function. -/
def Function.text (d : Function) : String :=
  docCommentOf d.doc ++ "export function " ++ d.name ++ "("
    ++ joined ", " (d.parameters.map Parameter.text) ++ ") \x7b\n  return "
    ++ expressionText d.body ++ ";\n\x7d\n"

/-- A printed import. -/
def Import.text (d : Import) : String :=
  (if d.typeOnly then "import type" else "import") ++ " \x7b " ++ joined ", " d.names
    ++ " \x7d from " ++ stringLiteral d.source ++ ";\n"

/-- A printed statement. -/
def Statement.text : Statement → String
  | .interface d => d.text
  | .enumeration d => d.text
  | .alias d => d.text
  | .function d => d.text
  | .importNames d => d.text

/-- Printed statements after a first one: a blank line before each, but not between imports. -/
def Module.textAfter (previous : Statement) : List Statement → String
  | [] => ""
  | s :: ss =>
    (if previous.isImport && s.isImport then "" else "\n") ++ s.text ++ Module.textAfter s ss

/-- A printed module. -/
def Module.text : Module → String
  | [] => ""
  | s :: ss => s.text ++ Module.textAfter s ss

end TypedRequests.TypeScript
