import TypedRequests.Json.Basic

/-!
# Schemas

A `Schema` describes the shape of a value in a document: a type name or several, a reference, the
schemas of items and of properties, and a list of allowed values.

* `Schema.typeName?` : the type name that counts.
* `Schema.isNullable` : the schema says that the value may be `null`.
* `Schema.isEnum` : the schema lists its values.
-/

set_option autoImplicit false

namespace TypedRequests.OpenApi

/-- The `type` of a schema: one name, or several of which any may apply. -/
inductive TypeNames where
  | single (name : String)
  | multiple (names : List String)
deriving DecidableEq, Repr

/-- What a schema says on properties that it does not name. -/
inductive Additional (σ : Type) where
  | allowed (b : Bool)
  | schema (s : σ)
deriving Repr

/-- A value that a schema lists. What is neither text, number nor Boolean is kept as it is. -/
inductive EnumValue where
  | string (s : String)
  | integer (n : Int)
  | real (x : Binary64)
  | bool (b : Bool)
  | other (v : Json)
deriving Repr

/-- A schema. Absent parts are `none`. -/
structure Schema where
  type : Option TypeNames
  reference : Option String
  items : Option Schema
  /-- The schemas of named properties, in declared order. -/
  properties : Option (List (String × Schema))
  additional : Option (Additional Schema)
  enumValues : Option (List EnumValue)
  nullable : Option Bool
  description : Option String
  format : Option String
deriving Repr

namespace Schema

/-- The schema that says nothing. -/
def empty : Schema :=
  ⟨none, none, none, none, none, none, none, none, none⟩

instance : Inhabited Schema :=
  ⟨empty⟩

/-- The name of the type `null`. -/
def nullName : String := "null"

/-- The type name that counts: the only one, or the first that is not `null`. -/
def typeName? (s : Schema) : Option String :=
  match s.type with
  | none => none
  | some (.single name) => some name
  | some (.multiple names) => names.find? fun name => name != nullName

/-- The schema says that the value may be `null`, by its flag or among its type names. -/
def isNullable (s : Schema) : Bool :=
  s.nullable == some true ||
    match s.type with
    | some (.multiple names) => names.contains nullName
    | _ => false

/-- The schema lists its values and names no properties. -/
def isEnum (s : Schema) : Bool :=
  s.properties.isNone && s.enumValues.any fun vs => !vs.isEmpty

end Schema

end TypedRequests.OpenApi
