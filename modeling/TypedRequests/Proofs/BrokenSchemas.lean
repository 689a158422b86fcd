import Mathlib.Data.List.Basic
import Mathlib.Logic.Relation
import TypedRequests.OpenApi.Schema.Typing
import TypedRequests.Reading

/-!
# Schemas without a type

A schema has no type exactly if an array without items is reached from it. What is reached depends
on where the schema stands: where a type is wanted, or where a declaration is.

* `Schema.Child` : a schema that counts for the type of another.
* `Schema.Broken` : an array without items.
* `Schema.ReachesBroken`, `Schema.describe_eq_error_iff` : where a type is wanted.
* `Schema.DeclarationReaches`, `Schema.DeclarationReachesBroken`, `declare_eq_error_iff` : where a
  declaration is.
-/

set_option autoImplicit false

namespace TypedRequests.OpenApi

open TypeScript

namespace Schema

/-! ## What is reached -/

/-- The second schema counts for the type of the first: as its items, as one of its properties, or
as the schema of its values. A reference has none that do. -/
inductive Child (s : Schema) : Schema → Prop where
  | items {item : Schema} (hr : s.reference = none) (ht : s.typeName? = some "array")
      (hi : s.items = some item) : Child s item
  | property {ps : List (String × Schema)} {p : String × Schema} (hr : s.reference = none)
      (ht : s.typeName? = some "object") (hps : s.properties = some ps) (hp : p ∈ ps) : Child s p.2
  | additional {value : Schema} (hr : s.reference = none) (ht : s.typeName? = some "object")
      (hps : s.properties = none) (ha : s.additional = some (.schema value)) : Child s value

/-- The second schema is reached from the first where a type is wanted. -/
abbrev Reaches : Schema → Schema → Prop :=
  Relation.ReflTransGen Child

/-- An array without items. -/
structure Broken (s : Schema) : Prop where
  noReference : s.reference = none
  array : s.typeName? = some "array"
  noItems : s.items = none

/-- An array without items is reached where a type is wanted. -/
def ReachesBroken (s : Schema) : Prop :=
  ∃ b, s.Reaches b ∧ b.Broken

/-- The second schema is reached from the first where a declaration is wanted. Properties count
whatever the type names say, and where values are listed nothing does. -/
inductive DeclarationReaches (s : Schema) : Schema → Prop where
  | property {ps : List (String × Schema)} {p : String × Schema} {b : Schema}
      (hr : s.reference = none) (hps : s.properties = some ps) (hp : p ∈ ps)
      (hb : p.2.Reaches b) : DeclarationReaches s b
  | type {b : Schema}
      (h : s.reference.isSome = true ∨ s.properties = none ∧ s.isEnum = false)
      (hb : s.Reaches b) : DeclarationReaches s b

/-- An array without items is reached where a declaration is wanted. -/
def DeclarationReachesBroken (s : Schema) : Prop :=
  ∃ b, s.DeclarationReaches b ∧ b.Broken

variable {s b c : Schema} {t : TypeExpr}

/-! ## The type of a schema -/

theorem kind_eq_array : s.kind = .array ↔ s.typeName? = some "array" := by
  unfold kind TypeKind.ofName
  split <;> simp_all

theorem kind_eq_object : s.kind = .object ↔ s.typeName? = some "object" := by
  unfold kind TypeKind.ofName
  split <;> simp_all

theorem describe_eq (s : Schema) :
    s.describe = match s.reference with
      | some r => .ok (.reference (Naming.referenceName r))
      | none =>
        match s.kind with
        | .string => .ok .string
        | .number => .ok .number
        | .boolean => .ok .boolean
        | .array => describeItems s.items
        | .object => s.describeObject
        | .unknown => .ok .unknown := by
  obtain ⟨type, reference, items, properties, additional, enumValues, nullable, description,
    format⟩ := s
  cases reference with
  | some r =>
    unfold describe
    rfl
  | none =>
    unfold describe
    cases properties <;> rfl

theorem describe_array (hr : s.reference = none) (ht : s.typeName? = some "array") :
    s.describe = describeItems s.items := by
  rw [describe_eq, hr, kind_eq_array.2 ht]

theorem describe_object (hr : s.reference = none) (ht : s.typeName? = some "object") :
    s.describe = s.describeObject := by
  rw [describe_eq, hr, kind_eq_object.2 ht]

theorem describeMembers_cons (p : String × Schema) (ps : List (String × Schema)) :
    describeMembers (p :: ps) = (do
      let type ← p.2.describe
      let rest ← describeMembers ps
      return ⟨p.1, type, p.2.isNullable, p.2.description⟩ :: rest) := by
  obtain ⟨name, p⟩ := p
  rw [describeMembers]

/-- **Properties have no types exactly if one of them has none.** -/
theorem describeMembers_eq_error_iff {ps : List (String × Schema)} {e : SchemaError} :
    describeMembers ps = .error e ↔ ∃ p ∈ ps, p.2.describe = .error e := by
  cases e
  induction ps with
  | nil => simp [describeMembers]
  | cons p ps ih =>
    rw [describeMembers_cons, List.exists_mem_cons_iff, ← ih]
    cases hp : p.2.describe with
    | error e =>
      cases e
      exact ⟨fun _ => Or.inl rfl, fun _ => rfl⟩
    | ok type =>
      cases hps : describeMembers ps with
      | error e =>
        cases e
        exact ⟨fun _ => Or.inr rfl, fun _ => rfl⟩
      | ok ms => simp [bind, Except.bind, pure, Except.pure]

/-! ## Where a type is wanted -/

theorem Child.sizeOf_lt (h : s.Child c) : sizeOf c < sizeOf s := by
  cases h with
  | items _ _ hi =>
    cases s
    cases hi
    simp
    omega
  | @property ps p _ _ hps hp =>
    have hsize := List.sizeOf_lt_of_mem hp
    cases s
    cases hps
    cases p
    simp at hsize ⊢
    omega
  | additional _ _ _ ha =>
    cases s
    cases ha
    simp
    omega

/-- A schema without a type is an array without items, or has a child without a type. -/
theorem describe_error {e : SchemaError} (h : s.describe = .error e) :
    s.Broken ∨ ∃ c, s.Child c ∧ c.describe = .error e := by
  rw [describe_eq] at h
  cases hr : s.reference with
  | some r =>
    rw [hr] at h
    cases h
  | none =>
    simp only [hr] at h
    cases hk : s.kind <;> rw [hk] at h
    case string | number | boolean | unknown => cases h
    case array =>
      have ht := kind_eq_array.1 hk
      cases hi : s.items with
      | none => exact Or.inl ⟨hr, ht, hi⟩
      | some item =>
        rw [hi, describeItems, map_eq_error] at h
        exact Or.inr ⟨item, .items hr ht hi, h⟩
    case object =>
      have ht := kind_eq_object.1 hk
      simp only [describeObject] at h
      cases hps : s.properties with
      | some ps =>
        rw [hps] at h
        simp only [map_eq_error] at h
        obtain ⟨p, hp, hpe⟩ := describeMembers_eq_error_iff.1 h
        exact Or.inr ⟨p.2, .property hr ht hps hp, hpe⟩
      | none =>
        simp only [hps] at h
        unfold describeAdditional at h
        split at h
        · rename_i value ha
          exact Or.inr ⟨value, .additional hr ht hps ha, map_eq_error.1 h⟩
        · cases h
        · cases h
        · cases h

theorem Broken.describe (h : s.Broken) : s.describe = .error .missingItems := by
  rw [describe_array h.noReference h.array, h.noItems, describeItems]

/-- A child without a type leaves a schema without one. -/
theorem Child.describe_error (h : s.Child c) (hc : c.describe = .error .missingItems) :
    s.describe = .error .missingItems := by
  cases h with
  | items hr ht hi =>
    rw [describe_array hr ht, hi, describeItems]
    exact map_eq_error.2 hc
  | property hr ht hps hp =>
    rw [describe_object hr ht]
    simp only [describeObject, hps]
    exact map_eq_error.2 (describeMembers_eq_error_iff.2 ⟨_, hp, hc⟩)
  | additional hr ht hps ha =>
    rw [describe_object hr ht]
    simp only [describeObject, hps, ha, describeAdditional]
    exact map_eq_error.2 hc

theorem reachesBroken_of_describe {s : Schema} {e : SchemaError} (h : s.describe = .error e) :
    s.ReachesBroken := by
  rcases describe_error h with hb | ⟨c, hc, he⟩
  · exact ⟨s, .refl, hb⟩
  · obtain ⟨b, hr, hb⟩ := reachesBroken_of_describe he
    exact ⟨b, .head hc hr, hb⟩
termination_by sizeOf s
decreasing_by exact hc.sizeOf_lt

/-- **A schema has no type exactly if an array without items is reached from it.** -/
theorem describe_eq_error_iff : s.describe = .error .missingItems ↔ s.ReachesBroken := by
  refine ⟨reachesBroken_of_describe, ?_⟩
  rintro ⟨b, hr, hb⟩
  -- the array without items has no type, and so has none that leads to it
  induction hr using Relation.ReflTransGen.head_induction_on with
  | refl => exact hb.describe
  | head hc _ ih => exact hc.describe_error ih

instance (s : Schema) : Decidable s.ReachesBroken :=
  match h : s.describe with
  | .error .missingItems => isTrue (describe_eq_error_iff.1 h)
  | .ok _ => isFalse fun hb => by rw [describe_eq_error_iff.2 hb] at h; cases h

theorem exists_describe (h : ¬ s.ReachesBroken) : ∃ t, s.describe = .ok t := by
  cases hs : s.describe with
  | error e => exact absurd (reachesBroken_of_describe hs) h
  | ok t => exact ⟨t, rfl⟩

/-! ## Where a declaration is wanted -/

/-- Properties are declared by their types, whatever the type names say. -/
theorem declarationReachesBroken_of_properties {ps : List (String × Schema)}
    (hr : s.reference = none) (hps : s.properties = some ps) :
    s.DeclarationReachesBroken ↔ ∃ p ∈ ps, p.2.ReachesBroken := by
  constructor
  · rintro ⟨b, hb, hbroken⟩
    cases hb with
    | property _ hps' hp hb =>
      rw [hps] at hps'
      cases hps'
      exact ⟨_, hp, b, hb, hbroken⟩
    | type h _ =>
      rw [hr, hps] at h
      exact h.elim nofun fun h => nomatch h.1
  · rintro ⟨p, hp, b, hb, hbroken⟩
    exact ⟨b, .property hr hps hp hb, hbroken⟩

/-- Without properties that count, a declaration that lists no values is that of the type. -/
theorem declarationReachesBroken_of_type
    (h : s.reference.isSome = true ∨ s.properties = none ∧ s.isEnum = false) :
    s.DeclarationReachesBroken ↔ s.ReachesBroken := by
  constructor
  · rintro ⟨b, hb, hbroken⟩
    cases hb with
    | property hr hps _ _ =>
      rw [hr, hps] at h
      exact h.elim nofun fun h => nomatch h.1
    | type _ hb => exact ⟨b, hb, hbroken⟩
  · rintro ⟨b, hb, hbroken⟩
    exact ⟨b, .type h hb, hbroken⟩

theorem not_declarationReachesBroken_of_isEnum (hr : s.reference = none) (he : s.isEnum = true) :
    ¬ s.DeclarationReachesBroken := by
  rintro ⟨b, hb, -⟩
  cases hb with
  | property _ hps _ _ => simp [isEnum, hps] at he
  | type h _ =>
    rw [hr, he] at h
    rcases h with h | ⟨-, h⟩
    · cases h
    · cases h

end Schema

/-- **A named schema has no declaration exactly if an array without items is reached from it.** -/
theorem declare_eq_error_iff {key : String} {s : Schema} :
    declare key s = .error .missingItems ↔ s.DeclarationReachesBroken := by
  unfold declare
  cases hr : s.reference with
  | some r =>
    rw [Schema.declarationReachesBroken_of_type (Or.inl (by rw [hr]; rfl)),
      ← Schema.describe_eq_error_iff]
    simp [map_eq_error, Schema.resolve, hr]
  | none =>
    cases hps : s.properties with
    | some ps =>
      simp [map_eq_error, Schema.describeObject, hps,
        Schema.describeMembers_eq_error_iff, Schema.describe_eq_error_iff,
        Schema.declarationReachesBroken_of_properties hr hps]
    | none =>
      cases he : s.isEnum with
      | true =>
        simp [Schema.resolve, hr, he, Except.map,
          Schema.not_declarationReachesBroken_of_isEnum hr he]
      | false =>
        rw [Schema.declarationReachesBroken_of_type (Or.inr ⟨hps, he⟩),
          ← Schema.describe_eq_error_iff]
        simp [map_eq_error, Schema.resolve, hr, he]

instance (s : Schema) : Decidable s.DeclarationReachesBroken :=
  match h : declare "" s with
  | .error .missingItems => isTrue (declare_eq_error_iff.1 h)
  | .ok _ => isFalse fun hb => by rw [declare_eq_error_iff.2 hb] at h; cases h

theorem exists_declare {s : Schema} (key : String) (h : ¬ s.DeclarationReachesBroken) :
    ∃ d, declare key s = .ok d := by
  cases hs : declare key s with
  | error e =>
    cases e
    exact absurd (declare_eq_error_iff.1 hs) h
  | ok d => exact ⟨d, rfl⟩

end TypedRequests.OpenApi
