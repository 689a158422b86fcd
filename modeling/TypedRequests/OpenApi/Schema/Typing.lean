import TypedRequests.Naming
import TypedRequests.OpenApi.Schema
import TypedRequests.TypeScript.Statement

/-!
# Types of schemas

* `Schema.describe` : the type of a schema where a type is wanted.
* `Schema.describeObject` : the type of its properties, whatever its type names say.
* `Schema.resolve` : its type or, if it lists its values, these.
* `declare` : the declaration of a named schema, which is a `DeclaredBy`.

The only schema without a type is one that has, where a type is wanted, an array without items.
-/

set_option autoImplicit false

namespace TypedRequests.OpenApi

open TypeScript

/-- Why a schema has no type. -/
inductive SchemaError where
  | missingItems
deriving DecidableEq, Repr

/-- The wording of an error. -/
def SchemaError.message : SchemaError → String
  | missingItems => "array schema has no `items`"

/-- What a type name stands for. -/
inductive TypeKind where
  | string
  | number
  | boolean
  | array
  | object
  | unknown
deriving DecidableEq, Repr

/-- What a type name stands for; other names and none at all stand for nothing known. -/
def TypeKind.ofName : Option String → TypeKind
  | some "string" => string
  | some "number" | some "int" | some "int32" | some "int64" | some "integer" => number
  | some "boolean" | some "bool" => boolean
  | some "array" => array
  | some "object" => object
  | _ => unknown

namespace Schema

/-- What the type names of a schema stand for. -/
def kind (s : Schema) : TypeKind :=
  TypeKind.ofName s.typeName?

mutual

/-- The type of a schema where a type is wanted; listed values do not matter there. -/
def describe : Schema → Except SchemaError TypeExpr
  | s@⟨_, reference, items, properties, additional, _, _, _, _⟩ =>
    match reference with
    | some r => .ok (.reference (Naming.referenceName r))
    | none =>
      match s.kind with
      | .string => .ok .string
      | .number => .ok .number
      | .boolean => .ok .boolean
      | .array => describeItems items
      | .object =>
        match properties with
        | some ps => (describeMembers ps).map .object
        | none => describeAdditional additional
      | .unknown => .ok .unknown

/-- The type of an array with the given items. -/
def describeItems : Option Schema → Except SchemaError TypeExpr
  | some item => (describe item).map .array
  | none => .error .missingItems

/-- The members for properties: those that may be `null` are optional. -/
def describeMembers : List (String × Schema) → Except SchemaError (List (Member TypeExpr))
  | [] => .ok []
  | (name, p) :: ps => do
    let type ← describe p
    let rest ← describeMembers ps
    return ⟨name, type, p.isNullable, p.description⟩ :: rest

/-- The type of an object without named properties. -/
def describeAdditional : Option (Additional Schema) → Except SchemaError TypeExpr
  | some (.schema value) => (describe value).map .map
  | some (.allowed true) => .ok (.map .unknown)
  | some (.allowed false) | none => .ok .any

end

/-- The type of the properties of a schema. -/
def describeObject (s : Schema) : Except SchemaError TypeExpr :=
  match s.properties with
  | some ps => (describeMembers ps).map .object
  | none => describeAdditional s.additional

/-- The type of a schema, if there is one; else nothing is known. -/
def typeOf (s : Option Schema) : Except SchemaError TypeExpr :=
  match s with
  | some s => s.describe
  | none => .ok .unknown

/-- What a named schema declares: a type or a list of values. -/
inductive Resolution where
  | type (t : TypeExpr)
  | values (vs : List EnumValue)
deriving Repr

/-- What a named schema declares. -/
def resolve (s : Schema) : Except SchemaError Resolution :=
  if s.reference.isNone && s.isEnum then .ok (.values (s.enumValues.getD []))
  else s.describe.map .type

end Schema

/-! ## Declarations -/

/-- The literal of a listed value; what no literal can express is `null`. -/
def EnumValue.literal : EnumValue → Literal
  | string s => .string s
  | integer n => .integer n
  | real x => .real x
  | bool b => .bool b
  | other _ => .null

/-- The members of an enum, numbered from `start`. -/
def enumMembersFrom (start : Nat) : List EnumValue → List EnumMember
  | [] => []
  | v :: vs => ⟨"Enum_" ++ toString start, v.literal⟩ :: enumMembersFrom (start + 1) vs

/-- The members of an enum: `Enum_0`, `Enum_1`, … -/
def enumMembers (vs : List EnumValue) : List EnumMember :=
  enumMembersFrom 0 vs

/-- The declaration of a type: objects and maps are interfaces, other types get a name. -/
def declareType (name : String) (doc : Option String) : TypeExpr → Statement
  | .object members => .interface ⟨name, doc, members, none⟩
  | .map value => .interface ⟨name, doc, [], some value⟩
  | t => .alias ⟨name, doc, t⟩

/-- The declaration of a named schema. Properties come first, then listed values. -/
def declare (key : String) (s : Schema) : Except SchemaError Statement :=
  let name := Naming.withoutQuotes key
  if s.reference.isNone && s.properties.isSome then
    s.describeObject.map (declareType name s.description)
  else
    s.resolve.map fun
      | .values vs => .enumeration ⟨name, s.description, enumMembers vs⟩
      | .type t => declareType name s.description t

/-- The ways in which a named schema is declared. -/
inductive DeclaredBy (key : String) (s : Schema) : Statement → Prop where
  | properties {t : TypeExpr} (hreference : s.reference = none)
      (hproperties : s.properties.isSome = true) (h : s.describeObject = .ok t) :
      DeclaredBy key s (declareType (Naming.withoutQuotes key) s.description t)
  | values {vs : List EnumValue} (h : s.enumValues = some vs) :
      DeclaredBy key s (.enumeration ⟨Naming.withoutQuotes key, s.description, enumMembers vs⟩)
  | type {t : TypeExpr}
      (hother : s.reference.isSome = true ∨ s.properties = none ∧ s.isEnum = false)
      (h : s.describe = .ok t) :
      DeclaredBy key s (declareType (Naming.withoutQuotes key) s.description t)

/-- **Every declaration comes about in one of these ways.** -/
theorem declaredBy_of_declare {key : String} {s : Schema} {st : Statement}
    (h : declare key s = .ok st) : DeclaredBy key s st := by
  unfold declare at h
  split at h
  · rename_i hproperties
    rw [Bool.and_eq_true, Option.isNone_iff_eq_none] at hproperties
    cases ho : s.describeObject with
    | error e =>
      rw [ho] at h
      cases h
    | ok t =>
      rw [ho] at h
      cases h
      exact .properties hproperties.1 hproperties.2 ho
  · rename_i hproperties
    unfold Schema.resolve at h
    split at h
    · rename_i henum
      simp only [Schema.isEnum, Bool.and_eq_true] at henum
      obtain ⟨vs, hvs, -⟩ := (Option.any_eq_true _ _).1 henum.2.2
      rw [hvs] at h
      cases h
      exact .values hvs
    · rename_i henum
      cases ht : s.describe with
      | error e =>
        rw [ht] at h
        cases h
      | ok t =>
        rw [ht] at h
        cases h
        refine .type ?_ ht
        cases hr : s.reference with
        | some r => exact .inl rfl
        | none =>
          rw [hr] at hproperties henum
          exact .inr ⟨by simpa using hproperties, by simpa using henum⟩

theorem declareType_ne_enumeration (name : String) (doc : Option String) (t : TypeExpr)
    (d : Enumeration) : declareType name doc t ≠ .enumeration d := by
  cases t <;> nofun

/-- An enum is declared by a schema that lists its values. -/
theorem enumValues_of_declare {key : String} {s : Schema} {d : Enumeration}
    (h : declare key s = .ok (.enumeration d)) :
    ∃ vs, s.enumValues = some vs ∧ d.name = Naming.withoutQuotes key ∧
      d.members = enumMembers vs := by
  generalize hst : Statement.enumeration d = st at h
  cases declaredBy_of_declare h with
  | properties _ _ _ => exact absurd hst.symm (declareType_ne_enumeration _ _ _ d)
  | values hvs =>
    cases hst
    exact ⟨_, hvs, rfl, rfl⟩
  | type _ _ => exact absurd hst.symm (declareType_ne_enumeration _ _ _ d)

end TypedRequests.OpenApi
