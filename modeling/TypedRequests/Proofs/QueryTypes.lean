import TypedRequests.Proofs.Declarations
import TypedRequests.Proofs.Identifiers
import TypedRequests.Proofs.Skipping

/-!
# Query types

A function with query parameters has a query type, with one member for each of them.

* `Schema.describeMembers_ok`, `declare_eq_map_of_properties` : the members of a declaration.
* `QueryParameter.Omissible`, `isNullable_querySchemaOf` : which query parameters may be left out.
* `MirrorsParameter` : a member that says what a query parameter does.
* `QueryPart`, `queryPart_of_emitted` : what a function has for the query.
* `query_types_mirror` : what this means for the function of an operation.
-/

set_option autoImplicit false

namespace TypedRequests

open TypeScript

namespace OpenApi

/-! ## Members of declarations -/

/-- **Members stand for properties one by one.** -/
theorem Schema.describeMembers_ok {ps : List (String × Schema)} {members : List (Member TypeExpr)}
    (h : describeMembers ps = .ok members) :
    List.Forall₂ (fun p m => ∃ t, p.2.describe = .ok t ∧
      m = ⟨p.1, t, p.2.isNullable, p.2.description⟩) ps members := by
  induction ps generalizing members with
  | nil =>
    rw [describeMembers] at h
    cases h
    exact .nil
  | cons p ps ih =>
    rw [describeMembers_cons] at h
    obtain ⟨t, ht, h⟩ := bind_eq_ok.1 h
    obtain ⟨rest, hrest, h⟩ := bind_eq_ok.1 h
    cases h
    exact .cons ⟨t, ht, rfl⟩ (ih hrest)

/-- What makes a member optional. -/
theorem Schema.isNullable_iff {s : Schema} : s.isNullable = true ↔
    s.nullable = some true ∨ ∃ names, s.type = some (.multiple names) ∧ "null" ∈ names := by
  rw [isNullable, Bool.or_eq_true, beq_iff_eq]
  refine or_congr_right ?_
  split
  · rename_i names htype
    simp [htype, nullName]
  · rename_i hother
    exact iff_of_false (by simp) fun ⟨names, htype, _⟩ => hother names htype

/-- Without a reference, properties are declared as an interface, whatever the type names say. -/
theorem declare_eq_map_of_properties {key : String} {s : Schema} {ps : List (String × Schema)}
    (hreference : s.reference = none) (hproperties : s.properties = some ps) :
    declare key s = (Schema.describeMembers ps).map fun members =>
      .interface ⟨Naming.withoutQuotes key, s.description, members, none⟩ := by
  rw [declare, hreference, hproperties, Option.isNone_none, Option.isSome_some, Bool.true_and,
    if_pos rfl, Schema.describeObject]
  simp only [hproperties]
  cases Schema.describeMembers ps <;> rfl

/-- The interface has a member for each property. -/
theorem declare_of_properties {key : String} {s : Schema} {ps : List (String × Schema)}
    {st : Statement} (hreference : s.reference = none) (hproperties : s.properties = some ps)
    (h : declare key s = .ok st) :
    ∃ members, Schema.describeMembers ps = .ok members ∧
      st = .interface ⟨Naming.withoutQuotes key, s.description, members, none⟩ := by
  rw [declare_eq_map_of_properties hreference hproperties] at h
  obtain ⟨members, hmembers, rfl⟩ := map_eq_ok.1 h
  exact ⟨members, hmembers, rfl⟩

end OpenApi

namespace Request

open OpenApi

/-! ## Query parameters -/

/-- A request may do without the parameter: its schema says so, by its flag or among its type names,
or the schema has no flag and the parameter is not required. -/
inductive QueryParameter.Omissible (p : QueryParameter) : Prop where
  | flag {s : Schema} (hs : p.schema = some s) (h : s.nullable = some true)
  | typeNames {s : Schema} {names : List String} (hs : p.schema = some s)
      (h : s.type = some (.multiple names)) (hnull : "null" ∈ names)
  | notRequired (hflag : ∀ s ∈ p.schema, s.nullable = none) (h : p.required = false)

/-- The member of a query type says what the query parameter does. -/
structure MirrorsParameter (p : QueryParameter) (m : Member TypeExpr) : Prop where
  name : m.name = p.name
  type : ∀ s ∈ p.schema, s.describe = .ok m.type
  unknown : p.schema = none → m.type = .unknown
  optional : m.optional = true ↔ p.Omissible
  comment : m.comment = (p.schema.bind Schema.description).or p.description

/-- The property for a parameter may be `null` exactly if the parameter may be left out. -/
theorem isNullable_querySchemaOf (p : QueryParameter) :
    (Endpoint.querySchemaOf p).isNullable = true ↔ p.Omissible := by
  have hflag : (Endpoint.querySchemaOf p).nullable =
      some (((p.schema.getD .empty).nullable).getD (!p.required)) := rfl
  have htype : (Endpoint.querySchemaOf p).type = (p.schema.getD .empty).type := rfl
  rw [Schema.isNullable_iff, hflag, htype, Option.some_inj]
  constructor
  · rintro (h | ⟨names, h, hnull⟩)
    · cases hs : p.schema with
      | none => exact .notRequired (by simp [hs]) (by simpa [hs, Schema.empty] using h)
      | some s =>
        cases hn : s.nullable with
        | none => exact .notRequired (by simpa [hs] using hn) (by simpa [hs, hn] using h)
        | some flag => exact .flag hs (by simpa [hs, hn] using h)
    · cases hs : p.schema with
      | none => simp [hs, Schema.empty] at h
      | some s => exact .typeNames hs (by simpa [hs] using h) hnull
  · rintro (⟨hs, h⟩ | ⟨hs, h, hnull⟩ | ⟨hnone, h⟩)
    · exact Or.inl (by simp [hs, h])
    · exact Or.inr ⟨_, by simpa [hs] using h, hnull⟩
    · cases hs : p.schema with
      | none => exact Or.inl (by simp [h, Schema.empty])
      | some s => exact Or.inl (by simp [hnone s hs, h])

/-- **The property for a parameter gives a member that says what the parameter does.** -/
theorem mirrors_of_describe {p : QueryParameter} {t : TypeExpr}
    (h : (Endpoint.querySchemaOf p).describe = .ok t) :
    MirrorsParameter p ⟨p.name, t, (Endpoint.querySchemaOf p).isNullable,
      (Endpoint.querySchemaOf p).description⟩ := by
  rw [Endpoint.describe_querySchemaOf] at h
  refine ⟨rfl, fun s hs => ?_, fun hs => ?_, isNullable_querySchemaOf p, ?_⟩
  · rwa [hs] at h
  · rw [hs] at h
    exact (Except.ok.inj h).symm
  · cases hs : p.schema <;> simp [Endpoint.querySchemaOf, hs, Schema.empty]

/-! ## Query types -/

variable {ctx : Context} {e : Endpoint} {names names' : Names} {f : EmittedFunction}

/-- What a function has for the query: nothing without query parameters, and otherwise a type with
its name, the parameter `query` of this type, and this name in the call. The type is declared as an
interface, with one member for each query parameter. -/
inductive QueryPart (e : Endpoint) :
    Option (String × Statement) → Option String → List TypeScript.Parameter → Prop where
  | absent (h : e.query = []) : QueryPart e none none []
  | present {name : String} {members : List (Member TypeExpr)} (h : e.query ≠ [])
      (hmembers : List.Forall₂ MirrorsParameter e.query members) :
      QueryPart e (some (name, .interface ⟨name, some e.queryDescription, members, none⟩))
        (some "query") [⟨"query", .reference name⟩]

/-- **The query type is an interface that mirrors the query parameters.** -/
theorem queryPart_of_emitted (h : Emitted ctx e names f names')
    (hnodup : (e.query.map QueryParameter.name).Nodup) :
    QueryPart e f.query (f.query.map fun _ => queryName)
      (f.query.toList.map fun q => ⟨queryName, .reference q.1⟩) := by
  cases hquery : f.query with
  | none =>
    have hname := h.queryName
    rw [hquery, Option.map_none] at hname
    split at hname
    · rename_i hempty
      exact .absent (List.isEmpty_iff.1 hempty)
    · cases hname
  | some q =>
    obtain ⟨name, st⟩ := q
    have hanswer : TypeAnswer names.types (Naming.queryTypeName f.function.name) name :=
      h.typeAnswer (by rw [hquery]; rfl)
    have hne : e.query ≠ [] := by
      intro hnil
      have hname := h.queryName
      rw [hquery, hnil] at hname
      cases hname
    have hdeclare : declare name e.querySchema = .ok st := h.queryType (name, st) hquery
    obtain ⟨members, hmembers, rfl⟩ :=
      declare_of_properties rfl (Endpoint.querySchema_properties hnodup) hdeclare
    rw [Naming.withoutQuotes_of_isWordChar (isWordChar_of_typeAnswer hanswer)]
    refine .present hne ?_
    have hmembers := List.forall₂_map_left_iff.1 (Schema.describeMembers_ok hmembers)
    refine hmembers.imp fun p m hm => ?_
    obtain ⟨t, ht, rfl⟩ := hm
    exact mirrors_of_describe ht

/-- **Query types mirror query parameters.** The parameters of a function are those of the route,
that of the query and that of the body. Exactly if the endpoint has query parameters, the function
has a query type, its call is told the name of the query, and there is a parameter of this name and
this type. The query type is declared as an interface under its own name, with one member for each
query parameter, in order: it has the name of the parameter and the type of its schema, it is
optional exactly if the parameter may be left out, and it has the description of the schema or else
that of the parameter for its comment. No two of these members have one name, and no two parameters
of the function. -/
theorem query_types_mirror {d : Document} {ctx₀ : Context} {modules : List TagModule}
    (hmodules : (extract d ctx₀).result = .ok modules) {m : TagModule} (hm : m ∈ modules)
    (he : e ∈ m.endpoints) (h : emitFunction ctx e names = (.ok f, names')) :
    ∃ call route query data, Asks ctx e names call f ∧ ctx.template call = .ok f.function.body ∧
      f.function.parameters = route ++ query ++ data ∧
      route.map TypeScript.Parameter.name = e.routeIdentifiers ∧
      data.map TypeScript.Parameter.name = (if e.body.isNone then [] else ["data"]) ∧
      QueryPart e f.query call.query query ∧
      (e.query.map QueryParameter.name).Nodup ∧ f.parameterNames.Nodup := by
  obtain ⟨p, _, rfl⟩ := exists_operation_of_extract hmodules hm he
  obtain ⟨call, hasks, hbody⟩ := asks_of_emitFunction h
  obtain ⟨path, -, rfl, htypes, hparameters⟩ := hasks.eq_callOf
  have hemitted := emitFunction_ok h
  have hnodup : ((p.endpoint d).query.map QueryParameter.name).Nodup :=
    Endpoint.nodup_queryNames ..
  have hlength : f.routeTypes.length = (p.endpoint d).routeIdentifiers.length := by
    rw [Endpoint.length_routeIdentifiers, length_routeTypes htypes]
  refine ⟨_, _, _, _, hasks, hbody, hparameters, map_name_zipWith hlength, ?_,
    queryPart_of_emitted hemitted hnodup, hnodup, hemitted.nodup_parameterNames⟩
  rw [← Endpoint.isNone_of_emitBody hemitted.bodyType]
  cases f.bodyType <;> rfl

/-- A document with one operation with query parameters: one that need not be given, one that must,
and one that must be given but may be `null`. -/
def queriedDocument : Document :=
  { Document.empty with
    paths := .ofPairs [("/pets", ⟨.ofPairs [(.get, ⟨["pets"], none, none,
      [.inline ⟨"limit", .query, some "How many", false,
          some { Schema.empty with type := some (.single "integer") }⟩,
        .inline ⟨"sort", .query, none, true, none⟩,
        .inline ⟨"state", .query, some "Any state", true,
          some { Schema.empty with
            type := some (.multiple ["string", "null"])
            nullable := some false
            description := some "Its state" }⟩], none, .empty⟩)], []⟩)] }

/-- The query type of its function. -/
def queriedText : String :=
  "/** query params */\nexport interface GetPetsQuery \x7b\n" ++
    "  /** How many */\n  limit?: number;\n" ++
    "  sort: unknown;\n" ++
    "  /** Its state */\n  state?: string;\n\x7d\n"

/-- The query type has a member for each parameter. -/
theorem query_types_mirror_pets :
    ∃ modules, (extract queriedDocument addressContext).result = .ok modules ∧
      ∃ m ∈ modules, ∃ e ∈ m.endpoints, ∃ f names',
        emitFunction addressContext e (.ofModelTypes []) = (.ok f, names') ∧
        f.parameterNames = ["query"] ∧
        ∃ i : Interface, f.query = some ("GetPetsQuery", .interface i) ∧
          List.Forall₂ MirrorsParameter e.query i.members ∧
          i.text = queriedText := by
  have hfunction : anyFunction queriedDocument addressContext (fun _ f =>
      f.parameterNames == ["query"] &&
        (f.query.map fun q => (q.1, q.2.text)) == some ("GetPetsQuery", queriedText)) = true := by
    decide +kernel
  obtain ⟨modules, hmodules, m, hm, e, he, f, names', h, hwanted⟩ := exists_function hfunction
  rw [Bool.and_eq_true, beq_iff_eq, beq_iff_eq] at hwanted
  obtain ⟨hparameters, hquery⟩ := hwanted
  obtain ⟨call, route, query, data, -, -, -, -, -, hpart, -⟩ := query_types_mirror hmodules hm he h
  refine ⟨modules, hmodules, m, hm, e, he, f, names', h, hparameters, ?_⟩
  generalize f.query = declared, call.query = told at hpart hquery
  cases hpart with
  | absent _ => cases hquery
  | @present name members _ hmembers =>
    obtain ⟨rfl, htext⟩ := Prod.mk.inj (Option.some.inj hquery)
    exact ⟨_, rfl, hmembers, htext⟩

end Request

end TypedRequests
