import TypedRequests.Proofs.BrokenSchemas
import TypedRequests.Proofs.Emission
import TypedRequests.Proofs.Extraction
import TypedRequests.Proofs.Parameters
import TypedRequests.Request.Generate

/-!
# What is skipped

A run leaves out what has no type, and nothing else: a named schema that has no declaration, and an
operation that needs a type which does not exist.

* `FailsIf` : a step fails for want of a type exactly under a condition.
* `Endpoint.Untyped`, `emitFunction_failsIf` : an endpoint has no function exactly if a part of it
  has no type.
* `Endpoint.schemas`, `Endpoint.NeedsBroken`, `untyped_iff_needsBroken` : the schemas that an
  operation needs types for.
* `declareAll_spec`, `exists_emits` : what this means for all named schemas and for all operations
  of a module.
* `skips_exactly_broken` : what is skipped in the modules of a document.
-/

set_option autoImplicit false

namespace TypedRequests.Request

open OpenApi TypeScript

/-! ## Steps that fail for want of a type -/

/-- The step fails for want of a type if the condition holds, and else it succeeds. -/
inductive FailsIf {α : Type} (broken : Prop) : Except GenerateError α → Prop where
  | fails (h : broken) (location : String) :
      FailsIf broken (.error (.schema location .missingItems))
  | succeeds (h : ¬ broken) (a : α) : FailsIf broken (.ok a)

namespace FailsIf

variable {α β : Type} {p q : Prop} {x : Except GenerateError α}

theorem congr (h : FailsIf p x) (hpq : p ↔ q) : FailsIf q x := by
  cases h with
  | fails hp location => exact .fails (hpq.1 hp) location
  | succeeds hp a => exact .succeeds (mt hpq.2 hp) a

theorem map (h : FailsIf p x) (f : α → β) : FailsIf p (x.map f) := by
  cases h with
  | fails hp location => exact .fails hp location
  | succeeds hp a => exact .succeeds hp (f a)

/-- Of two steps the first one that fails counts. -/
theorem bind {f : α → Except GenerateError β} (h : FailsIf p x) (hf : ∀ a, FailsIf q (f a)) :
    FailsIf (p ∨ q) (x >>= f) := by
  cases h with
  | fails hp location => exact .fails (Or.inl hp) location
  | succeeds hp a => exact (hf a).congr ⟨Or.inr, fun h => h.resolve_left hp⟩

end FailsIf

/-! ## The schemas of an endpoint -/

/-- An array without items is reached from one of the schemas. -/
def AnyBroken (schemas : List Schema) : Prop :=
  ∃ s ∈ schemas, s.ReachesBroken

instance (schemas : List Schema) : Decidable (AnyBroken schemas) :=
  inferInstanceAs (Decidable (∃ s ∈ schemas, s.ReachesBroken))

theorem anyBroken_append {ss ts : List Schema} :
    AnyBroken (ss ++ ts) ↔ AnyBroken ss ∨ AnyBroken ts := by
  simp [AnyBroken, or_and_right, exists_or]

theorem anyBroken_singleton {s : Schema} : AnyBroken [s] ↔ s.ReachesBroken := by
  simp [AnyBroken]

theorem not_anyBroken_nil : ¬ AnyBroken [] := by
  simp [AnyBroken]

/-- The template and the hooks never fail. -/
structure Context.Unfailing (ctx : Context) : Prop where
  template : ∀ call, ∃ text, ctx.template call = .ok text
  pathHook : ∀ hook ∈ ctx.pathHook, ∀ path, ∃ path', hook path = .ok path'
  codeHook : ∀ hook ∈ ctx.codeHook, ∀ text, ∃ text', hook text = .ok text'

namespace Endpoint

/-- The schemas that an endpoint needs types for: those of its parameters, and those of the JSON
content of its body and of its response of success. -/
def schemas (e : Endpoint) : List Schema :=
  e.route.filterMap RouteParameter.schema ++ e.query.filterMap QueryParameter.schema ++
    (e.body.bind Payload.jsonSchema?).toList ++ e.successSchema?.toList

/-- An array without items is reached from a schema that the endpoint needs a type for. -/
def NeedsBroken (e : Endpoint) : Prop :=
  AnyBroken e.schemas

instance (e : Endpoint) : Decidable e.NeedsBroken :=
  inferInstanceAs (Decidable (AnyBroken e.schemas))

variable {ctx : Context} {e : Endpoint}

/-! ## The steps of an emission -/

theorem describe_failsIf (s : Schema) (location : String) :
    FailsIf s.ReachesBroken (s.describe.mapError (.schema location)) := by
  by_cases h : s.ReachesBroken
  · rw [Schema.describe_eq_error_iff.2 h]
    exact .fails h location
  · obtain ⟨t, ht⟩ := Schema.exists_describe h
    rw [ht]
    exact .succeeds h t

theorem typeOf_failsIf (s : Option Schema) (location : String) :
    FailsIf (AnyBroken s.toList) ((Schema.typeOf s).mapError (.schema location)) := by
  cases s with
  | none => exact .succeeds not_anyBroken_nil TypeExpr.unknown
  | some s => exact (describe_failsIf s location).congr anyBroken_singleton.symm

theorem routeType_failsIf (e : Endpoint) (r : RouteParameter) :
    FailsIf (AnyBroken r.schema.toList) (e.routeType r) := by
  unfold routeType
  cases r.schema with
  | none => exact .succeeds not_anyBroken_nil TypeExpr.string
  | some s => exact (describe_failsIf s _).congr anyBroken_singleton.symm

theorem routeTypes_failsIf (e : Endpoint) (rs : List RouteParameter) :
    FailsIf (AnyBroken (rs.filterMap RouteParameter.schema)) (e.routeTypes rs) := by
  induction rs with
  | nil => exact .succeeds not_anyBroken_nil []
  | cons r rs ih =>
    have hcons : (r :: rs).filterMap RouteParameter.schema =
        r.schema.toList ++ rs.filterMap RouteParameter.schema := by
      cases hr : r.schema <;> simp [hr]
    rw [hcons]
    refine FailsIf.congr ?_ anyBroken_append.symm
    exact (e.routeType_failsIf r).bind fun t => ih.map (t :: ·)

theorem emitBody_failsIf (e : Endpoint) :
    FailsIf (AnyBroken (e.body.bind Payload.jsonSchema?).toList) e.emitBody := by
  unfold emitBody
  cases e.body with
  | none => exact .succeeds not_anyBroken_nil none
  | some body => exact (typeOf_failsIf body.jsonSchema? _).map some

theorem emitResponse_failsIf (e : Endpoint) :
    FailsIf (AnyBroken e.successSchema?.toList) e.emitResponse :=
  typeOf_failsIf e.successSchema? _

/-- What a parameter says besides its schema does not matter for the type. -/
theorem describe_querySchemaOf (p : QueryParameter) :
    (querySchemaOf p).describe = Schema.typeOf p.schema := by
  rw [Schema.describe_eq]
  unfold querySchemaOf
  cases p.schema with
  | none => rfl
  | some s =>
    rw [Schema.typeOf, Schema.describe_eq]
    rfl

theorem reachesBroken_querySchemaOf (p : QueryParameter) :
    (querySchemaOf p).ReachesBroken ↔ AnyBroken p.schema.toList := by
  rw [← Schema.describe_eq_error_iff, describe_querySchemaOf]
  cases p.schema with
  | none => simp [Schema.typeOf, not_anyBroken_nil]
  | some s => simp [Schema.typeOf, Schema.describe_eq_error_iff, anyBroken_singleton]

/-- The query type has no declaration exactly if a query parameter has no type. -/
theorem declarationReachesBroken_querySchema (h : (e.query.map QueryParameter.name).Nodup) :
    e.querySchema.DeclarationReachesBroken ↔
      AnyBroken (e.query.filterMap QueryParameter.schema) := by
  rw [Schema.declarationReachesBroken_of_properties rfl (querySchema_properties h)]
  constructor
  · rintro ⟨_, hmem, hb⟩
    obtain ⟨p, hp, rfl⟩ := List.mem_map.1 hmem
    obtain ⟨s, hs, hb⟩ := (reachesBroken_querySchemaOf p).1 hb
    exact ⟨s, List.mem_filterMap.2 ⟨p, hp, Option.mem_toList.1 hs⟩, hb⟩
  · rintro ⟨s, hs, hb⟩
    obtain ⟨p, hp, hps⟩ := List.mem_filterMap.1 hs
    refine ⟨_, List.mem_map_of_mem hp, (reachesBroken_querySchemaOf p).2 ?_⟩
    exact ⟨s, Option.mem_toList.2 hps, hb⟩

theorem emitQuery_failsIf (e : Endpoint) (function : String) (names : Names) :
    FailsIf (e.query ≠ [] ∧ e.querySchema.DeclarationReachesBroken)
      (e.emitQuery function names).1 := by
  unfold emitQuery
  split
  · rename_i hempty
    exact .succeeds (fun h => h.1 (List.isEmpty_iff.1 hempty)) none
  · rename_i hempty
    simp only [Names.claimType]
    by_cases hb : e.querySchema.DeclarationReachesBroken
    · rw [declare_eq_error_iff.2 hb]
      exact .fails ⟨mt List.isEmpty_iff.2 hempty, hb⟩ _
    · obtain ⟨s, hs⟩ := exists_declare (names.typeName (Naming.queryTypeName function)) hb
      rw [hs]
      exact .succeeds (fun h => hb h.2) _

/-- With its types a function is finished, unless the template fails. -/
theorem finish_failsIf (hctx : ctx.Unfailing) (e : Endpoint) (path name : String)
    (routeTypes : List TypeExpr) (query : Option (String × Statement)) :
    FailsIf (AnyBroken (e.body.bind Payload.jsonSchema?).toList ∨
      AnyBroken e.successSchema?.toList) (e.finish ctx path name routeTypes query) := by
  refine e.emitBody_failsIf.bind fun bodyType => ?_
  refine FailsIf.congr (e.emitResponse_failsIf.bind fun responseType => ?_) (iff_of_eq (or_false _))
  obtain ⟨text, htext⟩ := hctx.template
    { url := e.urlExpression path
      method := e.method
      query := query.map fun _ => queryName
      body := bodyType.map fun _ => dataName
      response := responseType.text }
  simp only [htext, mapError_ok]
  exact .succeeds not_false _

/-- A part of the endpoint has no type: a route parameter, the query, the body or the response. -/
def Untyped (e : Endpoint) : Prop :=
  AnyBroken (e.route.filterMap RouteParameter.schema) ∨
    (e.query ≠ [] ∧ e.querySchema.DeclarationReachesBroken) ∨
    AnyBroken (e.body.bind Payload.jsonSchema?).toList ∨ AnyBroken e.successSchema?.toList

instance (e : Endpoint) : Decidable e.Untyped :=
  inferInstanceAs (Decidable (_ ∨ (_ ∧ _) ∨ _ ∨ _))

/-- **An endpoint has no function exactly if a part of it has no type.** -/
theorem emitFunction_failsIf (hctx : ctx.Unfailing) (e : Endpoint) (names : Names) :
    FailsIf e.Untyped (emitFunction ctx e names).1 := by
  have hpath : ∃ path, e.requestPath ctx = .ok path := by
    unfold requestPath
    cases hhook : ctx.pathHook with
    | none => exact ⟨e.path, rfl⟩
    | some hook =>
      obtain ⟨path, hpath⟩ := hctx.pathHook hook hhook e.path
      exact ⟨path, by simp only [hpath, mapError_ok]⟩
  obtain ⟨path, hpath⟩ := hpath
  rw [fst_emitFunction, hpath]
  exact (e.routeTypes_failsIf e.route).bind fun routeTypes =>
    (e.emitQuery_failsIf _ _).bind fun query => finish_failsIf hctx e path _ routeTypes query

/-- If query parameters have different names, the endpoint has a type exactly if the schemas that it
needs have one. -/
theorem untyped_iff_needsBroken (h : (e.query.map QueryParameter.name).Nodup) :
    e.Untyped ↔ e.NeedsBroken := by
  have hquery : (e.query ≠ [] ∧ e.querySchema.DeclarationReachesBroken) ↔
      AnyBroken (e.query.filterMap QueryParameter.schema) := by
    rw [declarationReachesBroken_querySchema h]
    refine and_iff_right_of_imp fun hb hnil => ?_
    rw [hnil] at hb
    exact not_anyBroken_nil hb
  rw [Untyped, hquery]
  simp only [NeedsBroken, schemas, anyBroken_append, or_assoc]

end Endpoint

/-! ## Named schemas -/

/-- **The named schemas that are declared are those that reach no array without items**, in order,
and there is a notice for each of the others. -/
theorem declareAll_spec (schemas : List (String × Schema)) :
    List.Forall₂ (fun e s => declare e.1 e.2 = .ok s)
        (schemas.filter fun e => ¬ e.2.DeclarationReachesBroken) (declareAll schemas).2 ∧
      (declareAll schemas).1 = (schemas.filter fun e => e.2.DeclarationReachesBroken).map
        fun e => .skippedComponent e.1 .missingItems := by
  induction schemas with
  | nil => exact ⟨.nil, rfl⟩
  | cons e schemas ih =>
    obtain ⟨name, s⟩ := e
    obtain ⟨hdeclared, hnotices⟩ := ih
    unfold declareAll
    by_cases hb : s.DeclarationReachesBroken
    · rw [List.filter_cons_of_neg (by simpa using hb), List.filter_cons_of_pos (by simpa using hb),
        declare_eq_error_iff.2 hb]
      exact ⟨hdeclared, congrArg (_ :: ·) hnotices⟩
    · obtain ⟨statement, hs⟩ := exists_declare name hb
      rw [List.filter_cons_of_pos (by simpa using hb), List.filter_cons_of_neg (by simpa using hb),
        hs]
      exact ⟨.cons hs hdeclared, hnotices⟩

/-! ## Operations -/

variable {d : Document} {ctx : Context}

/-- The function is what the endpoint gives, after some names are taken. -/
def GivenBy (ctx : Context) (e : Endpoint) (f : EmittedFunction) : Prop :=
  ∃ before after, emitFunction ctx e before = (.ok f, after)

/-- **The functions of endpoints are those of the ones that have a type**, in order. -/
theorem exists_emits (hctx : ctx.Unfailing) (es : List Endpoint) (names : Names) :
    ∃ fs, Emits ctx names es fs ∧
      List.Forall₂ (GivenBy ctx) (es.filter fun e => ¬ e.Untyped) fs := by
  induction es generalizing names with
  | nil => exact ⟨[], .nil, .nil⟩
  | cons e es ih =>
    have hfails := Endpoint.emitFunction_failsIf hctx e names
    obtain ⟨fs, hfs, hgiven⟩ := ih (emitFunction ctx e names).2
    cases hf : emitFunction ctx e names with
    | mk result names' =>
      rw [hf] at hfails hfs
      cases hfails with
      | fails hb location =>
        rw [List.filter_cons_of_neg (by simpa using hb)]
        exact ⟨fs, .skipped hf hfs, hgiven⟩
      | succeeds hb f =>
        rw [List.filter_cons_of_pos (by simpa using hb)]
        exact ⟨f :: fs, .emitted hf hfs, .cons ⟨names, names', hf⟩ hgiven⟩

/-- The plan of a module without functions is to write nothing. -/
theorem plan_of_emits {m : TagModule} {modelTypes : List String} {fs : List EmittedFunction}
    (h : Emits ctx (Names.ofModelTypes modelTypes) m.endpoints fs) (layout : OutputLayout) :
    (m.plan ctx layout modelTypes).result =
      .ok (if fs.isEmpty then none else some (planOf ctx layout m.name fs)) := by
  have hresult := (emits_iff m.name).2 h
  unfold TagModule.plan
  simp only [hresult]
  cases fs <;> rfl

/-- **Exactly the things without a type are skipped.** If the template and the hooks never fail, a
named schema has no declaration exactly if an array without items is reached from it, and an
operation has no function in the module of its tag exactly if one is reached from a schema that it
needs. -/
theorem skips_exactly_broken (d : Document) (hctx : ctx.Unfailing) :
    (∀ notices module, modelModule? d = some (notices, module) →
      ∃ schemas, d.schemas? = some schemas ∧
        List.Forall₂ (fun e s => declare e.1 e.2 = .ok s)
          (schemas.entries.filter fun e => ¬ e.2.DeclarationReachesBroken) module ∧
        notices = (schemas.entries.filter fun e => e.2.DeclarationReachesBroken).map
          fun e => .skippedComponent e.1 .missingItems) ∧
    ∀ modules, (extract d ctx).result = .ok modules → ∀ m ∈ modules, ∀ layout modelTypes,
      ∃ fs, (m.plan ctx layout modelTypes).result =
          .ok (if fs.isEmpty then none else some (planOf ctx layout m.name fs)) ∧
        List.Forall₂ (GivenBy ctx) (m.endpoints.filter fun e => ¬ e.NeedsBroken) fs := by
  refine ⟨fun notices module hmodel => ?_, fun modules hmodules m hm layout modelTypes => ?_⟩
  · obtain ⟨schemas, hschemas, hmodule⟩ := Option.map_eq_some_iff.1 hmodel
    obtain ⟨hdeclared, hnotices⟩ := declareAll_spec schemas.entries
    rw [hmodule] at hdeclared hnotices
    exact ⟨schemas, hschemas, hdeclared, hnotices⟩
  · have hes : ∀ e ∈ m.endpoints, (e.query.map QueryParameter.name).Nodup := by
      intro e he
      obtain ⟨p, _, rfl⟩ := exists_operation_of_extract hmodules hm he
      exact Endpoint.nodup_queryNames d p.path p.method p.item p.operation
    obtain ⟨fs, hfs, hgiven⟩ := exists_emits hctx m.endpoints (Names.ofModelTypes modelTypes)
    refine ⟨fs, plan_of_emits hfs layout, ?_⟩
    rwa [List.filter_congr fun e he =>
      decide_eq_decide.2 (not_congr (Endpoint.untyped_iff_needsBroken (hes e he)))] at hgiven

/-- A document with a named schema and an operation of each kind: one that has a type, and one that
needs an array without items. -/
def toysDocument : Document :=
  let broken := { Schema.empty with type := some (.single "array") }
  let toy := { Schema.empty with
    properties := some [("parts", { broken with items := some .empty })] }
  let operation := fun schema : Schema =>
    Operation.mk ["toys"] none none [] none
      (.ofPairs [("200", ⟨none, .ofPairs [("application/json", ⟨some schema⟩)]⟩)])
  { Document.empty with
    paths := .ofPairs [("/toys", ⟨.ofPairs [(.get, operation toy),
      (.post, operation { toy with type := some (.single "object"),
                                   properties := some [("parts", broken)] })], []⟩)]
    components := some ⟨some (.ofPairs [("Toy", toy), ("Parts", broken)]), .empty⟩ }

theorem skips_exactly_broken_toys :
    (Context.ofTemplate fun call => .ok call.url).Unfailing ∧
    (∃ notices module, modelModule? toysDocument = some (notices, module) ∧
      notices = [.skippedComponent "Parts" .missingItems]) ∧
    ∃ m, (extract toysDocument (.ofTemplate fun call => .ok call.url)).result = .ok [m] ∧
      m.endpoints.length = 2 ∧ ∃ fs : List EmittedFunction, fs.length = 1 ∧
        (m.plan (.ofTemplate fun call => .ok call.url) ⟨⟨"api"⟩, ⟨"api/model.ts"⟩⟩ []).result =
          .ok (some (planOf (.ofTemplate fun call => .ok call.url)
            ⟨⟨"api"⟩, ⟨"api/model.ts"⟩⟩ m.name fs)) := by
  have hctx : (Context.ofTemplate fun call => .ok call.url).Unfailing :=
    ⟨fun call => ⟨call.url, rfl⟩, nofun, nofun⟩
  obtain ⟨hmodel, hmodules⟩ := skips_exactly_broken toysDocument hctx
  refine ⟨hctx, ?_, ?_⟩
  · obtain ⟨m, hm⟩ : ∃ m, modelModule? toysDocument = some m := ⟨_, rfl⟩
    obtain ⟨notices, module⟩ := m
    obtain ⟨schemas, hschemas, _, hnotices⟩ := hmodel notices module hm
    refine ⟨notices, module, hm, hnotices.trans ?_⟩
    cases hschemas
    decide +kernel
  · have hone : (extract toysDocument (.ofTemplate fun call => .ok call.url)).result.toOption.map
        (fun modules => modules.map fun m =>
          (m.endpoints.length, (m.endpoints.filter fun e => ¬ e.NeedsBroken).length)) =
        some [(2, 1)] := by decide +kernel
    cases hr : (extract toysDocument (.ofTemplate fun call => .ok call.url)).result with
    | error e =>
      rw [hr] at hone
      cases hone
    | ok modules =>
      rw [hr] at hone
      obtain ⟨m, rfl, hm⟩ := List.map_eq_singleton_iff.1 (Option.some.inj hone)
      obtain ⟨htwo, hkept⟩ := Prod.mk.inj hm
      obtain ⟨fs, hplan, hgiven⟩ := hmodules _ hr m (List.mem_singleton.2 rfl)
        ⟨⟨"api"⟩, ⟨"api/model.ts"⟩⟩ []
      have hlength : fs.length = 1 := hgiven.length_eq.symm.trans hkept
      refine ⟨m, rfl, htwo, fs, hlength, ?_⟩
      rw [hplan, if_neg (by rw [List.isEmpty_iff_length_eq_zero]; omega)]

end TypedRequests.Request
