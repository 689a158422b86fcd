import TypedRequests.Proofs.DistinctNames
import TypedRequests.Proofs.Places
import TypedRequests.Proofs.QueryTypes
import TypedRequests.Proofs.References

/-!
# Named types and types in place

A schema has a type where a type is wanted, and under a key it has a declaration. Two readings of
one schema are behind them: for a declaration, a reference counts first, then properties, then
listed values, and only then the type names; in place, listed values never count, and properties
only under the type name `object`.

* `Schema.MemberFor`, `Schema.describeMembers_eq_ok_iff` : what properties are typed as.
* `Declares` : which declaration says that a name stands for a type.
* `NumbersValues` : the members of an enum.
* `Schema.TypedAlike` : the schemas that declare the type they have in place.
* `declare_of_isEnum`, `declare_of_typedAlike` : how enums and types in place are declared.
* `referenceName_schemaPrefix_eq_iff` : which references lead to a declared name.
* `NamedType`, `named_types` : how the declaration of a schema and its type in place relate.
-/

set_option autoImplicit false

namespace TypedRequests.OpenApi

open TypeScript

/-! ## Types of properties -/

namespace Schema

/-- The member has the name of the property, and its type is the type of the property in place. -/
structure MemberFor (p : String × Schema) (m : Member TypeExpr) : Prop where
  name : m.name = p.1
  type : p.2.describe = .ok m.type
  optional : m.optional = p.2.isNullable
  comment : m.comment = p.2.description

/-- **Properties are typed one by one, in order.** -/
theorem describeMembers_eq_ok_iff {ps : List (String × Schema)} {members : List (Member TypeExpr)} :
    describeMembers ps = .ok members ↔ List.Forall₂ MemberFor ps members := by
  constructor
  · intro h
    refine (describeMembers_ok h).imp ?_
    rintro p m ⟨t, ht, rfl⟩
    exact ⟨rfl, ht, rfl, rfl⟩
  · intro h
    induction h with
    | nil => rw [describeMembers]
    | @cons p m ps members hm _ ih =>
      obtain ⟨name, type, optional, comment⟩ := m
      obtain ⟨rfl, ht, rfl, rfl⟩ := hm
      rw [describeMembers_cons, ht, ih]
      rfl

variable {s : Schema} {members : List (Member TypeExpr)}

theorem describeItems_ne_object (items : Option Schema) :
    describeItems items ≠ .ok (.object members) := by
  intro h
  unfold describeItems at h
  split at h
  · obtain ⟨_, _, harray⟩ := map_eq_ok.1 h
    cases harray
  · cases h

theorem describeAdditional_ne_object (additional : Option (Additional Schema)) :
    describeAdditional additional ≠ .ok (.object members) := by
  intro h
  unfold describeAdditional at h
  split at h
  · obtain ⟨_, _, hmap⟩ := map_eq_ok.1 h
    cases hmap
  all_goals cases h

theorem describeObject_eq_ok_object_iff : s.describeObject = .ok (.object members) ↔
    ∃ ps, s.properties = some ps ∧ List.Forall₂ MemberFor ps members := by
  unfold describeObject
  cases hps : s.properties with
  | none => simp [describeAdditional_ne_object]
  | some ps => simp [map_eq_ok, describeMembers_eq_ok_iff]

/-- **A type with members is that of a schema with properties**, one for each. -/
theorem properties_of_describe (h : s.describe = .ok (.object members)) :
    ∃ ps, s.properties = some ps ∧ List.Forall₂ MemberFor ps members := by
  rw [describe_eq] at h
  cases hr : s.reference with
  | some r =>
    rw [hr] at h
    cases h
  | none =>
    simp only [hr] at h
    cases hk : s.kind <;> rw [hk] at h
    case array => exact absurd h (describeItems_ne_object _)
    case object => exact describeObject_eq_ok_object_iff.1 h
    case string | number | boolean | unknown => cases h

end Schema

/-! ## Declarations of types -/

/-- The declaration says that the name stands for the type: an interface has the members of an
object type or the value type of a map, and any other type gets the name. -/
inductive Declares (name : String) (doc : Option String) : TypeExpr → Statement → Prop where
  | members (ms : List (Member TypeExpr)) :
      Declares name doc (.object ms) (.interface ⟨name, doc, ms, none⟩)
  | values (value : TypeExpr) :
      Declares name doc (.map value) (.interface ⟨name, doc, [], some value⟩)
  | alias {t : TypeExpr} (hobject : ∀ ms, t ≠ .object ms) (hmap : ∀ value, t ≠ .map value) :
      Declares name doc t (.alias ⟨name, doc, t⟩)

/-- One declaration says it. -/
theorem declares_iff {name : String} {doc : Option String} {t : TypeExpr} {st : Statement} :
    Declares name doc t st ↔ declareType name doc t = st := by
  constructor
  · rintro (ms | value | ⟨hobject, hmap⟩)
    · rfl
    · rfl
    · cases t with
      | object ms => exact absurd rfl (hobject ms)
      | map value => exact absurd rfl (hmap value)
      | _ => rfl
  · rintro rfl
    cases t with
    | object ms => exact .members ms
    | map value => exact .values value
    | _ => exact .alias nofun nofun

/-- The members of an enum stand for the listed values in order, and their names, which count from
zero, are all different. -/
structure NumbersValues (vs : List EnumValue) (members : List EnumMember) : Prop where
  each : members = vs.mapIdx fun i v => ⟨"Enum_" ++ toString i, v.literal⟩
  distinct : (members.map EnumMember.name).Nodup

theorem enumMembersFrom_eq (start : Nat) (vs : List EnumValue) :
    enumMembersFrom start vs =
      vs.mapIdx fun i v => ⟨"Enum_" ++ toString (start + i), v.literal⟩ := by
  induction vs generalizing start with
  | nil => rfl
  | cons v vs ih =>
    have hshift : ∀ i, start + 1 + i = start + (i + 1) := by omega
    simp only [enumMembersFrom, ih, hshift, List.mapIdx_cons, Nat.add_zero]

/-- **Enums number the listed values.** -/
theorem numbersValues_enumMembers (vs : List EnumValue) : NumbersValues vs (enumMembers vs) := by
  have heach : enumMembers vs = vs.mapIdx fun i v => ⟨"Enum_" ++ toString i, v.literal⟩ := by
    rw [enumMembers, enumMembersFrom_eq]
    simp only [Nat.zero_add]
  refine ⟨heach, List.pairwise_iff_getElem.2 fun i j hi hj hlt hname => ?_⟩
  have hij : "Enum_" ++ toString i = "Enum_" ++ toString j := by simpa [heach] using hname
  exact hlt.ne (append_number_injective hij)

/-- A value that is listed twice has two members. -/
example : enumMembers [.string "sold", .string "sold"] =
    [⟨"Enum_0", .string "sold"⟩, ⟨"Enum_1", .string "sold"⟩] := rfl

/-! ## Ways to be declared -/

/-- The schema declares the type that it has in place: it is a reference, it has neither properties
nor listed values, or it has properties and says that it is an object. -/
inductive Schema.TypedAlike (s : Schema) : Prop where
  | reference (h : s.reference ≠ none)
  | bare (hproperties : s.properties = none) (henum : s.isEnum = false)
  | object (hproperties : s.properties ≠ none) (htype : s.typeName? = some "object")

variable {key : String} {s : Schema}

/-- A schema without reference that lists its values declares them. -/
theorem declare_of_isEnum (hreference : s.reference = none) (henum : s.isEnum = true) :
    ∃ vs, s.enumValues = some vs ∧ vs ≠ [] ∧ declare key s =
      .ok (.enumeration ⟨Naming.withoutQuotes key, s.description, enumMembers vs⟩) := by
  have hparts := henum
  rw [Schema.isEnum, Bool.and_eq_true, Option.isNone_iff_eq_none] at hparts
  obtain ⟨hproperties, hvalues⟩ := hparts
  obtain ⟨vs, hvs, hne⟩ := (Option.any_eq_true _ _).1 hvalues
  refine ⟨vs, hvs, by simpa using hne, ?_⟩
  simp [declare, Schema.resolve, hreference, henum, hproperties, hvs, Except.map]

/-- Where neither properties nor listed values count for more, the type in place is declared. -/
theorem declare_eq_map_describe (hproperties : (s.reference.isNone && s.properties.isSome) = false)
    (henum : (s.reference.isNone && s.isEnum) = false) :
    declare key s = s.describe.map (declareType (Naming.withoutQuotes key) s.description) := by
  rw [declare, hproperties, if_neg Bool.false_ne_true, Schema.resolve, henum,
    if_neg Bool.false_ne_true]
  cases s.describe <;> rfl

/-- **The type in place is declared.** -/
theorem declare_of_typedAlike (h : s.TypedAlike) :
    declare key s = s.describe.map (declareType (Naming.withoutQuotes key) s.description) := by
  have hreferenced (hr : s.reference ≠ none) :
      declare key s = s.describe.map (declareType (Naming.withoutQuotes key) s.description) := by
    have hnone : s.reference.isNone = false := by
      rwa [← Bool.not_eq_true, Option.isNone_iff_eq_none]
    exact declare_eq_map_describe (by rw [hnone, Bool.false_and]) (by rw [hnone, Bool.false_and])
  cases h with
  | reference h => exact hreferenced h
  | bare hproperties henum =>
    exact declare_eq_map_describe (by rw [hproperties, Option.isSome_none, Bool.and_false])
      (by rw [henum, Bool.and_false])
  | object hproperties htype =>
    by_cases hr : s.reference = none
    · rw [declare, hr, Option.isSome_iff_ne_none.2 hproperties, Option.isNone_none, Bool.true_and,
        if_pos rfl, Schema.describe_object hr htype]
    · exact hreferenced hr

/-- A schema is declared in one of three ways. -/
theorem Schema.isEnum_or_typedAlike_or_properties (s : Schema) :
    (s.reference = none ∧ s.isEnum = true) ∨ s.TypedAlike ∨
      (s.reference = none ∧ s.properties ≠ none ∧ s.typeName? ≠ some "object") := by
  by_cases hr : s.reference = none
  · by_cases hp : s.properties = none
    · cases he : s.isEnum with
      | true => exact Or.inl ⟨hr, rfl⟩
      | false => exact Or.inr (Or.inl (.bare hp he))
    · by_cases ht : s.typeName? = some "object"
      · exact Or.inr (Or.inl (.object hp ht))
      · exact Or.inr (Or.inr ⟨hr, hp, ht⟩)
  · exact Or.inr (Or.inl (.reference hr))

/-! ## References to declared names -/

theorem slash_mem_withoutQuotes {name : String} :
    '/' ∈ (Naming.withoutQuotes name).toList ↔ '/' ∈ name.toList := by
  rw [Naming.withoutQuotes, String.toList_ofList, List.mem_filter]
  exact and_iff_left (by decide)

theorem slash_not_mem_lastSegment (path : String) : '/' ∉ (Naming.lastSegment path).toList := by
  have hne := Text.splitOn_ne_nil '/' path.toList
  rw [Naming.lastSegment, String.toList_ofList, List.getLast?_eq_some_getLast hne, Option.getD_some]
  exact Text.not_mem_of_mem_splitOn (List.getLast_mem hne)

/-- **A reference to a key leads to the declared name exactly if there is no slash in the key.** -/
theorem referenceName_schemaPrefix_eq_iff {key : String} :
    Naming.referenceName (schemaPrefix ++ key) = Naming.withoutQuotes key ↔
      '/' ∉ key.toList := by
  rw [referenceName_schemaPrefix]
  constructor
  · intro h hslash
    have hlast := slash_not_mem_lastSegment key
    rw [← slash_mem_withoutQuotes, h, slash_mem_withoutQuotes] at hlast
    exact hlast hslash
  · intro hslash
    rw [lastSegment_of_not_mem hslash]

/-! ## Named types and types in place -/

/-- How the declaration of a schema under a key and its type in place relate. -/
structure NamedType (key : String) (s : Schema) : Prop where
  /-- Listed values are declared as an enum. -/
  enum : s.reference = none → s.isEnum = true → ∃ vs members, s.enumValues = some vs ∧ vs ≠ [] ∧
    NumbersValues vs members ∧
      declare key s = .ok (.enumeration ⟨Naming.withoutQuotes key, s.description, members⟩)
  /-- What is typed alike has a declaration exactly if it has a type in place, and declares it. -/
  typed : s.TypedAlike →
    (∀ st, declare key s = .ok st ↔ ∃ t, s.describe = .ok t ∧
      Declares (Naming.withoutQuotes key) s.description t st) ∧
    ((∃ st, declare key s = .ok st) ↔ ∃ t, s.describe = .ok t) ∧
    ∀ e, declare key s = .error e ↔ s.describe = .error e
  /-- The members of an object type are the properties in declared order. -/
  order : ∀ members, s.describe = .ok (.object members) →
    ∃ ps, s.properties = some ps ∧ List.Forall₂ Schema.MemberFor ps members
  /-- Properties are declared whatever the type names say, each with its type in place. -/
  interface : ∀ ps, s.reference = none → s.properties = some ps →
    (∀ st, declare key s = .ok st ↔ ∃ members, List.Forall₂ Schema.MemberFor ps members ∧
      st = .interface ⟨Naming.withoutQuotes key, s.description, members, none⟩) ∧
    ∀ e, declare key s = .error e ↔ ∃ p ∈ ps, p.2.describe = .error e
  /-- There is no fourth way. -/
  ways : (s.reference = none ∧ s.isEnum = true) ∨ s.TypedAlike ∨
    (s.reference = none ∧ s.properties ≠ none ∧ s.typeName? ≠ some "object")
  name : ∀ st, declare key s = .ok st → st.declaredName? = some (Naming.withoutQuotes key)
  /-- References to the key have the declared name as their type unless there is a slash in it. -/
  reference : ∀ r : Schema, r.reference = some (schemaPrefix ++ key) →
    (r.describe = .ok (.reference (Naming.withoutQuotes key)) ↔ '/' ∉ key.toList)

/-- **Named types are the types in place.** This holds of every key and every schema, except that
listed values and properties without the type name `object` only count for a declaration. -/
theorem named_types (key : String) (s : Schema) : NamedType key s where
  enum hreference henum := by
    obtain ⟨vs, hvs, hne, hdeclare⟩ := declare_of_isEnum hreference henum
    exact ⟨vs, enumMembers vs, hvs, hne, numbersValues_enumMembers vs, hdeclare⟩
  typed h := by
    simp only [declare_of_typedAlike h, map_eq_ok, map_eq_error, declares_iff,
      implies_true, true_and, and_true]
    exact ⟨fun ⟨_, t, ht, _⟩ => ⟨t, ht⟩, fun ⟨t, ht⟩ => ⟨_, t, ht, rfl⟩⟩
  order _ := Schema.properties_of_describe
  interface ps hreference hproperties := by
    rw [declare_eq_map_of_properties hreference hproperties]
    constructor
    · intro st
      simp only [map_eq_ok, Schema.describeMembers_eq_ok_iff, @eq_comm _ st]
    · intro e
      rw [map_eq_error, Schema.describeMembers_eq_error_iff]
  ways := s.isEnum_or_typedAlike_or_properties
  name _ := Request.declaredName_declare
  reference r hr := by
    rw [Schema.describe_eq, hr]
    simp only [Except.ok.injEq, TypeExpr.reference.injEq]
    exact referenceName_schemaPrefix_eq_iff

end TypedRequests.OpenApi
