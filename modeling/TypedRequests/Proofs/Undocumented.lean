import TypedRequests.Proofs.BrokenSchemas
import TypedRequests.Proofs.Calls
import TypedRequests.Proofs.Documentation
import TypedRequests.Proofs.Resolution
import TypedRequests.Proofs.SkippedNames

/-!
# Documents without documentation

Descriptions and summaries only become documentation: without them the same types are declared, and
the same functions emitted, but for their comments.

* `Schema.undocumented`, `Endpoint.undocumented` : a schema and an endpoint without descriptions.
* `Schema.describe_undocumented`, `declare_undocumented` : they declare the same without comments.
* `Endpoint.alike_outline` : they have the same function without comments.
* `documentation_stays_inside` : no description puts a text outside of a comment.
-/

set_option autoImplicit false

namespace TypedRequests

/-! ## Results that are alike -/

namespace Request.Alike

variable {ε ε' α β : Type} {R : α → α → Prop} {S : β → β → Prop} {x y : Except ε α}

theorem of_map_eq {g : α → β} (h : x.map g = y.map g) : Alike (fun a b => g a = g b) x y := by
  cases x with
  | error err =>
    cases y with
    | error err' =>
      cases h
      exact .error err
    | ok b => cases h
  | ok a =>
    cases y with
    | error err' => cases h
    | ok b => exact .ok (Except.ok.inj h)

theorem of_eq_map {g : α → α} (h : x = y.map g) : Alike (fun a b => a = g b) x y := by
  subst h
  cases y with
  | error err => exact .error err
  | ok b => exact .ok rfl

theorem map {f g : α → β} (h : Alike R x y) (hfg : ∀ a b, R a b → S (f a) (g b)) :
    Alike S (x.map f) (y.map g) := by
  cases h with
  | error err => exact .error err
  | ok h => exact .ok (hfg _ _ h)

theorem mapError (h : Alike R x y) (f : ε → ε') : Alike R (x.mapError f) (y.mapError f) := by
  cases h with
  | error err => exact .error (f err)
  | ok h => exact .ok h

end Request.Alike

/-! ## Types without comments -/

namespace TypeScript.TypeExpr

mutual

theorem withoutComments_withoutComments :
    (t : TypeExpr) → t.withoutComments.withoutComments = t.withoutComments
  | array item => congrArg array (withoutComments_withoutComments item)
  | object members => congrArg object (membersWithoutComments_twice members)
  | map value => congrArg map (withoutComments_withoutComments value)
  | string | number | boolean | reference _ | any | unknown => rfl

theorem membersWithoutComments_twice : (ms : List (Member TypeExpr)) →
    membersWithoutComments (membersWithoutComments ms) = membersWithoutComments ms
  | [] => rfl
  | m :: ms => by
    rw [membersWithoutComments, membersWithoutComments, withoutComments_withoutComments m.type,
      membersWithoutComments_twice ms]

end

end TypeScript.TypeExpr

theorem TypeScript.Statement.withoutDocs_withoutDocs (s : Statement) :
    s.withoutDocs.withoutDocs = s.withoutDocs := by
  match s with
  | .interface d =>
    cases hindex : d.index <;> simp [withoutDocs, hindex, TypeExpr.membersWithoutComments_twice,
      TypeExpr.withoutComments_withoutComments]
  | .enumeration d => rfl
  | .alias d => simp [withoutDocs, TypeExpr.withoutComments_withoutComments]
  | .function d =>
    simp [withoutDocs, Function.withoutDocs, Parameter.withoutComments, Function.comp_def,
      TypeExpr.withoutComments_withoutComments]
  | .importNames d => rfl

namespace OpenApi

open TypeScript

/-! ## Schemas -/

namespace Schema

mutual

/-- A schema without its descriptions. -/
def undocumented : Schema → Schema
  | ⟨type, reference, items, properties, additional, enumValues, nullable, _, format⟩ =>
    ⟨type, reference, undocumentedItems items, undocumentedProperties properties,
      undocumentedAdditional additional, enumValues, nullable, none, format⟩

/-- Items without their descriptions. -/
def undocumentedItems : Option Schema → Option Schema
  | some item => some (undocumented item)
  | none => none

/-- Properties without their descriptions, if there are any. -/
def undocumentedProperties : Option (List (String × Schema)) → Option (List (String × Schema))
  | some ps => some (undocumentedEntries ps)
  | none => none

/-- Properties without their descriptions. -/
def undocumentedEntries : List (String × Schema) → List (String × Schema)
  | [] => []
  | (name, p) :: ps => (name, undocumented p) :: undocumentedEntries ps

/-- What is said on further properties, without descriptions. -/
def undocumentedAdditional : Option (Additional Schema) → Option (Additional Schema)
  | some (.schema value) => some (.schema (undocumented value))
  | some (.allowed b) => some (.allowed b)
  | none => none

end

theorem undocumentedEntries_eq (ps : List (String × Schema)) :
    undocumentedEntries ps = ps.map fun p => (p.1, p.2.undocumented) := by
  induction ps with
  | nil => rfl
  | cons p ps ih => rw [undocumentedEntries, ih, List.map_cons]

theorem isNullable_undocumented (s : Schema) : s.undocumented.isNullable = s.isNullable := by
  cases s
  rfl

theorem kind_undocumented (s : Schema) : s.undocumented.kind = s.kind := by
  cases s
  rfl

theorem reference_undocumented (s : Schema) : s.undocumented.reference = s.reference := by
  cases s
  rfl

/-- Objects are described by their properties, and those by the rest of the schema. -/
theorem describeObject_undocumented_of {s : Schema}
    (hmembers : ∀ ps, s.properties = some ps → describeMembers (undocumentedEntries ps) =
      (describeMembers ps).map TypeExpr.membersWithoutComments)
    (hadditional : describeAdditional (undocumentedAdditional s.additional) =
      (describeAdditional s.additional).map TypeExpr.withoutComments) :
    s.undocumented.describeObject = s.describeObject.map TypeExpr.withoutComments := by
  obtain ⟨_, _, _, properties, additional, _, _, _, _⟩ := s
  cases properties with
  | some ps =>
    simp only [undocumented, undocumentedProperties, describeObject, hmembers ps rfl]
    cases describeMembers ps <;> rfl
  | none => exact hadditional

mutual

theorem describe_undocumented :
    (s : Schema) → s.undocumented.describe = s.describe.map TypeExpr.withoutComments
  | ⟨type, reference, items, properties, additional, enumValues, nullable, doc, format⟩ => by
    rw [describe_eq, describe_eq, kind_undocumented, reference_undocumented]
    cases reference with
    | some r => rfl
    | none =>
      simp only
      split
      · rfl
      · rfl
      · rfl
      · exact describeItems_undocumented items
      · refine describeObject_undocumented_of (fun ps hps => ?_)
          (describeAdditional_undocumented additional)
        cases properties with
        | some declared =>
          rw [← Option.some.inj hps]
          exact describeMembers_undocumented declared
        | none => cases hps
      · rfl

theorem describeItems_undocumented : (items : Option Schema) →
    describeItems (undocumentedItems items) = (describeItems items).map TypeExpr.withoutComments
  | some item => by
    rw [undocumentedItems, describeItems, describeItems, describe_undocumented item]
    cases item.describe <;> rfl
  | none => by rw [undocumentedItems, describeItems]; rfl

theorem describeMembers_undocumented : (ps : List (String × Schema)) →
    describeMembers (undocumentedEntries ps) =
      (describeMembers ps).map TypeExpr.membersWithoutComments
  | [] => by rw [undocumentedEntries, describeMembers]; rfl
  | (name, p) :: ps => by
    rw [undocumentedEntries, describeMembers_cons, describeMembers_cons,
      describe_undocumented p, describeMembers_undocumented ps, isNullable_undocumented]
    cases p.describe with
    | error e => rfl
    | ok t =>
      cases describeMembers ps with
      | error e => rfl
      | ok ms =>
        cases p
        rfl

theorem describeAdditional_undocumented : (a : Option (Additional Schema)) →
    describeAdditional (undocumentedAdditional a) =
      (describeAdditional a).map TypeExpr.withoutComments
  | some (.schema value) => by
    rw [undocumentedAdditional, describeAdditional, describeAdditional, describe_undocumented value]
    cases value.describe <;> rfl
  | some (.allowed true) => by rw [undocumentedAdditional, describeAdditional]; rfl
  | some (.allowed false) => by rw [undocumentedAdditional, describeAdditional]; rfl
  | none => by rw [undocumentedAdditional, describeAdditional]; rfl

end

theorem describeObject_undocumented (s : Schema) :
    s.undocumented.describeObject = s.describeObject.map TypeExpr.withoutComments :=
  describeObject_undocumented_of (fun ps _ => describeMembers_undocumented ps)
    (describeAdditional_undocumented _)

theorem typeOf_undocumented (s : Option Schema) :
    typeOf (s.map undocumented) = (typeOf s).map TypeExpr.withoutComments := by
  cases s with
  | none => rfl
  | some s => exact describe_undocumented s

end Schema

theorem declareType_withoutComments (name : String) (doc : Option String) (t : TypeExpr) :
    declareType name none t.withoutComments = (declareType name doc t).withoutDocs := by
  cases t <;> rfl

/-- **A schema declares the same without its descriptions**, but for the documentation. -/
theorem declare_undocumented (key : String) (s : Schema) :
    declare key s.undocumented = (declare key s).map Statement.withoutDocs := by
  have hproperties : s.undocumented.properties.isSome = s.properties.isSome := by
    obtain ⟨_, _, _, properties, _, _, _, _, _⟩ := s
    cases properties <;> rfl
  have hdoc : s.undocumented.description = none := by
    cases s
    rfl
  have henum : s.undocumented.isEnum = s.isEnum ∧ s.undocumented.enumValues = s.enumValues := by
    obtain ⟨_, _, _, properties, _, _, _, _, _⟩ := s
    cases properties <;> exact ⟨rfl, rfl⟩
  unfold declare Schema.resolve
  rw [hproperties, hdoc, henum.1, henum.2, s.reference_undocumented, s.describeObject_undocumented,
    s.describe_undocumented]
  split
  · cases s.describeObject with
    | error e => rfl
    | ok t => exact congrArg Except.ok (declareType_withoutComments _ _ t)
  · split
    · rfl
    · cases s.describe with
      | error e => rfl
      | ok t => exact congrArg Except.ok (declareType_withoutComments _ _ t)

end OpenApi

/-- A map with other values under the same keys. -/
def OrderedMap.mapValues {κ α β : Type} [DecidableEq κ] (f : α → β) (m : OrderedMap κ α) :
    OrderedMap κ β :=
  ⟨m.entries.map fun e => (e.1, f e.2), by
    have hkeys : Entries.keys (m.entries.map fun e => (e.1, f e.2)) = Entries.keys m.entries := by
      simp [Entries.keys]
    rw [hkeys]
    exact m.distinct⟩

theorem OrderedMap.find?_mapValues {κ α β : Type} [DecidableEq κ] (f : α → β) (m : OrderedMap κ α)
    (key : κ) : (m.mapValues f).find? key = (m.find? key).map f := by
  suffices ∀ es : List (κ × α), Entries.find? key (es.map fun e => (e.1, f e.2)) =
      (Entries.find? key es).map f from this m.entries
  intro es
  induction es with
  | nil => rfl
  | cons e es ih =>
    rw [List.map_cons, Entries.find?, Entries.find?, ih]
    split <;> rfl

namespace Entries

variable {κ α β : Type} [DecidableEq κ]

theorem put_map (f : α → β) (key : κ) (value : α) (es : List (κ × α)) :
    put key (f value) (es.map fun e => (e.1, f e.2)) =
      (put key value es).map fun e => (e.1, f e.2) := by
  induction es with
  | nil => rfl
  | cons e es ih =>
    rw [List.map_cons, put, put, ih]
    split <;> rfl

theorem ofPairs_map (f : α → β) (es : List (κ × α)) :
    ofPairs (es.map fun e => (e.1, f e.2)) = (ofPairs es).map fun e => (e.1, f e.2) := by
  suffices ∀ m : List (κ × α), (es.map fun e => (e.1, f e.2)).foldl (fun m e => put e.1 e.2 m)
      (m.map fun e => (e.1, f e.2)) = (es.foldl (fun m e => put e.1 e.2 m) m).map
        fun e => (e.1, f e.2) from this []
  induction es with
  | nil => exact fun m => rfl
  | cons e es ih =>
    intro m
    simp only [List.map_cons, List.foldl_cons, put_map, ih]

end Entries

namespace OpenApi

/-- A body or response without its descriptions. -/
def Payload.undocumented (p : Payload) : Payload :=
  ⟨none, p.content.mapValues fun m => ⟨m.schema.map Schema.undocumented⟩⟩

theorem Payload.jsonSchema?_undocumented (p : Payload) :
    p.undocumented.jsonSchema? = p.jsonSchema?.map Schema.undocumented := by
  have hfind : (p.undocumented.content.entries.find? fun e => isJsonMedia e.1) =
      (p.content.entries.find? fun e => isJsonMedia e.1).map
        fun e => (e.1, ⟨e.2.schema.map Schema.undocumented⟩) :=
    List.find?_map
  unfold jsonSchema?
  rw [hfind]
  cases p.content.entries.find? fun e => isJsonMedia e.1 <;> rfl

end OpenApi

namespace Request

open OpenApi TypeScript

/-! ## Endpoints -/

/-- A route parameter without its descriptions. -/
def RouteParameter.undocumented (r : RouteParameter) : RouteParameter :=
  ⟨r.name, none, r.schema.map Schema.undocumented⟩

/-- A query parameter without its descriptions. -/
def QueryParameter.undocumented (p : QueryParameter) : QueryParameter :=
  ⟨p.name, none, p.required, p.schema.map Schema.undocumented⟩

namespace Endpoint

/-- An endpoint without its summary and descriptions. -/
def undocumented (e : Endpoint) : Endpoint :=
  { path := e.path
    method := e.method
    summary := none
    route := e.route.map RouteParameter.undocumented
    query := e.query.map QueryParameter.undocumented
    body := e.body.map Payload.undocumented
    responses := e.responses.mapValues Payload.undocumented }

variable (e : Endpoint)

theorem routeNames_undocumented : e.undocumented.routeNames = e.routeNames := by
  simp [routeNames, undocumented, RouteParameter.undocumented, Function.comp_def]

theorem routeIdentifiers_undocumented : e.undocumented.routeIdentifiers = e.routeIdentifiers := by
  have hfixed : e.undocumented.fixedNames = e.fixedNames := by
    simp [fixedNames, undocumented]
  rw [routeIdentifiers, hfixed, routeNames_undocumented, routeIdentifiers]

theorem urlExpression_undocumented (path : String) :
    e.undocumented.urlExpression path = e.urlExpression path := by
  have hidentifier : e.undocumented.placeholderIdentifier = e.placeholderIdentifier := by
    funext placeholder
    rw [placeholderIdentifier, routeNames_undocumented, routeIdentifiers_undocumented,
      placeholderIdentifier]
  rw [urlExpression, hidentifier, urlExpression]
  simp [undocumented]

theorem routeType_undocumented (r : RouteParameter) :
    e.undocumented.routeType r.undocumented = (e.routeType r).map TypeExpr.withoutComments := by
  obtain ⟨name, description, schema⟩ := r
  cases schema with
  | none => rfl
  | some s =>
    simp only [routeType, RouteParameter.undocumented, Option.map_some, s.describe_undocumented]
    cases s.describe <;> rfl

theorem routeTypes_undocumented (rs : List RouteParameter) :
    e.undocumented.routeTypes (rs.map RouteParameter.undocumented) =
      (e.routeTypes rs).map (List.map TypeExpr.withoutComments) := by
  induction rs with
  | nil => rfl
  | cons r rs ih =>
    rw [List.map_cons, routeTypes, routeTypes, ih, routeType_undocumented]
    cases e.routeType r with
    | error err => rfl
    | ok t => cases e.routeTypes rs <;> rfl

theorem emitBody_undocumented :
    e.undocumented.emitBody = e.emitBody.map (Option.map TypeExpr.withoutComments) := by
  obtain ⟨path, method, summary, route, query, body, responses⟩ := e
  cases body with
  | none => rfl
  | some body =>
    simp only [emitBody, undocumented, Option.map_some, body.jsonSchema?_undocumented,
      Schema.typeOf_undocumented]
    cases Schema.typeOf body.jsonSchema? <;> rfl

theorem emitResponse_undocumented :
    e.undocumented.emitResponse = e.emitResponse.map TypeExpr.withoutComments := by
  have hschema : e.undocumented.successSchema? = e.successSchema?.map Schema.undocumented := by
    have hfind : e.undocumented.responses.find? successStatus =
        (e.responses.find? successStatus).map Payload.undocumented :=
      OrderedMap.find?_mapValues ..
    rw [successSchema?, successSchema?, hfind]
    cases e.responses.find? successStatus with
    | none => rfl
    | some p => exact p.jsonSchema?_undocumented
  rw [emitResponse, emitResponse, hschema, Schema.typeOf_undocumented]
  cases Schema.typeOf e.successSchema? <;> rfl

/-! ## Query types -/

theorem querySchemaOf_undocumented (p : QueryParameter) :
    querySchemaOf p.undocumented = (querySchemaOf p).undocumented := by
  obtain ⟨name, description, required, schema⟩ := p
  cases schema with
  | none => rfl
  | some s =>
    cases s
    rfl

/-- The description of a query type is only in part that of its endpoint. -/
theorem querySchema_undocumented : e.undocumented.querySchema =
    { e.querySchema.undocumented with description := some "query params" } := by
  have hpairs : (e.undocumented.query.map fun p => (p.name, querySchemaOf p)) =
      (e.query.map fun p => (p.name, querySchemaOf p)).map fun p => (p.1, p.2.undocumented) := by
    rw [undocumented, List.map_map, List.map_map]
    exact List.map_congr_left fun p _ => Prod.ext rfl (querySchemaOf_undocumented p)
  rw [querySchema, hpairs, Entries.ofPairs_map, ← Schema.undocumentedEntries_eq]
  rfl

theorem map_withoutDocs_declare_querySchema (name : String) :
    (declare name e.undocumented.querySchema).map Statement.withoutDocs =
      (declare name e.querySchema).map Statement.withoutDocs := by
  have hdescription : ∀ s : Schema, ∀ d : Option String,
      Schema.undocumented { s with description := d } = s.undocumented := by
    intro s d
    cases s
    rfl
  rw [querySchema_undocumented, ← declare_undocumented, hdescription, declare_undocumented,
    declare_undocumented]
  cases declare name e.querySchema with
  | error err => rfl
  | ok s => exact congrArg Except.ok s.withoutDocs_withoutDocs

/-- The query types have the same name, and differ at most in documentation. -/
def SameQuery (q q' : Option (String × Statement)) : Prop :=
  q.map (Prod.map id Statement.withoutDocs) = q'.map (Prod.map id Statement.withoutDocs)

theorem alike_emitQuery (function : String) (names : Names) :
    Alike SameQuery (e.undocumented.emitQuery function names).1 (e.emitQuery function names).1 := by
  have hempty : e.undocumented.query.isEmpty = e.query.isEmpty := by
    simp [undocumented]
  have hdeclare := Alike.of_map_eq (e.map_withoutDocs_declare_querySchema
    (names.typeName (Naming.queryTypeName function)))
  unfold emitQuery
  rw [hempty]
  split
  · exact .ok rfl
  · refine (hdeclare.mapError _).map fun s s' hs => ?_
    simp only [SameQuery, Option.map_some, Prod.map, hs]

end Endpoint

/-! ## Functions -/

/-- A function with its types without their documentation. -/
def EmittedFunction.withoutDocs (f : EmittedFunction) : EmittedFunction :=
  { function := f.function.withoutDocs
    query := f.query.map (Prod.map id Statement.withoutDocs)
    bodyType := f.bodyType.map TypeExpr.withoutComments
    responseType := f.responseType.withoutComments
    routeTypes := f.routeTypes.map TypeExpr.withoutComments }

namespace Endpoint

variable (e : Endpoint)

theorem map_withoutComments_parameters {q q' : Option (String × Statement)} (h : SameQuery q q')
    (types : List TypeExpr) (bodyType : Option TypeExpr) :
    (e.undocumented.parameters (types.map TypeExpr.withoutComments) q
        (bodyType.map TypeExpr.withoutComments)).map TypeScript.Parameter.withoutComments =
      (e.parameters types q' bodyType).map TypeScript.Parameter.withoutComments := by
  have hroute : (e.routeIdentifiers.zipWith TypeScript.Parameter.mk
        (types.map TypeExpr.withoutComments)).map TypeScript.Parameter.withoutComments =
      (e.routeIdentifiers.zipWith TypeScript.Parameter.mk types).map
        TypeScript.Parameter.withoutComments := by
    simp [List.zipWith_map_right, List.map_zipWith, TypeScript.Parameter.withoutComments,
      TypeExpr.withoutComments_withoutComments]
  have hnames : q.map Prod.fst = q'.map Prod.fst := by
    simpa [Function.comp_def] using congrArg (Option.map Prod.fst) h
  have hquery : (q.toList.map fun q => (⟨queryName, .reference q.1⟩ : TypeScript.Parameter)) =
      q'.toList.map fun q => ⟨queryName, .reference q.1⟩ := by
    simpa [Option.toList_map, Function.comp_def] using congrArg (fun names => names.toList.map
      fun name => (⟨queryName, .reference name⟩ : TypeScript.Parameter)) hnames
  have hbody : ((bodyType.map TypeExpr.withoutComments).toList.map fun t =>
        (⟨dataName, t⟩ : TypeScript.Parameter)).map TypeScript.Parameter.withoutComments =
      (bodyType.toList.map fun t => ⟨dataName, t⟩).map TypeScript.Parameter.withoutComments := by
    cases bodyType <;>
      simp [TypeScript.Parameter.withoutComments, TypeExpr.withoutComments_withoutComments]
  rw [parameters, parameters, routeIdentifiers_undocumented, hquery]
  simp only [List.map_append, hroute, hbody]

/-- **Without its descriptions an endpoint has the same function**, but for the documentation. -/
theorem alike_outline (ctx : Context) (names : Names) :
    Alike (fun p₀ p => p₀.1 = p.1 ∧ p₀.2.withoutDocs = p.2.withoutDocs ∧
        p₀.2.responseType = p.2.responseType.withoutComments)
      (e.undocumented.outline ctx names) (e.outline ctx names) := by
  unfold outline
  refine Alike.bind (Alike.of_eq _) fun path path' hpath => ?_
  subst hpath
  rw [routeNames_undocumented]
  refine Alike.bind (Alike.of_eq_map (e.routeTypes_undocumented e.route)) fun ts₀ ts hts => ?_
  refine Alike.bind (e.alike_emitQuery _ _) fun q₀ q hq => ?_
  refine Alike.bind (Alike.of_eq_map e.emitBody_undocumented) fun b₀ b hb => ?_
  refine Alike.bind (Alike.of_eq_map e.emitResponse_undocumented) fun r₀ r hr => ?_
  subst hts hb hr
  refine Alike.ok ⟨rfl, ?_, rfl⟩
  have hmethod : e.undocumented.method = e.method := rfl
  have hparameters := e.map_withoutComments_parameters hq ts b
  unfold SameQuery at hq
  simp [EmittedFunction.withoutDocs, Function.withoutDocs, hmethod, hparameters, hq,
    Function.comp_def, TypeExpr.withoutComments_withoutComments]

theorem callOf_undocumented {f₀ f : EmittedFunction} (h : f₀.withoutDocs = f.withoutDocs)
    (path : String) : e.undocumented.callOf path f₀ =
      { e.callOf path f with response := f₀.responseType.text } := by
  have hquery : f₀.query.map (fun _ => queryName) = f.query.map fun _ => queryName := by
    simpa [EmittedFunction.withoutDocs, Function.comp_def] using
      congrArg (fun f => f.query.map fun _ => queryName) h
  have hbody : f₀.bodyType.map (fun _ => dataName) = f.bodyType.map fun _ => dataName := by
    simpa [EmittedFunction.withoutDocs, Function.comp_def] using
      congrArg (fun f => f.bodyType.map fun _ => dataName) h
  rw [callOf, callOf, urlExpression_undocumented, hquery, hbody]
  rfl

end Endpoint

/-- **Without its descriptions an endpoint asks the template for the same call**, but for the
comments in the printed response. -/
theorem Asks.undocumented {ctx : Context} {e : Endpoint} {names : Names} {call : CallInfo}
    {f : EmittedFunction} (h : Asks ctx e names call f) :
    ∃ call₀ f₀, Asks ctx e.undocumented names call₀ f₀ ∧
      call₀ = { call with response := call₀.response } ∧
      Commented false call₀.response.toList call.response.toList ∧
      f₀.withoutDocs = f.withoutDocs := by
  obtain ⟨path, houtline, rfl⟩ := asks_iff.1 h
  have halike := e.alike_outline ctx names
  rw [houtline] at halike
  generalize houtline₀ : e.undocumented.outline ctx names = x at halike
  cases halike with
  | @ok p₀ _ hp =>
    obtain ⟨path₀, f₀⟩ := p₀
    obtain ⟨rfl, hdocs, hresponse⟩ := hp
    have hcall := e.callOf_undocumented hdocs path₀
    have hbody : f₀.withBody "" = f₀ := (outline_ok houtline₀).2.1
    have htype : f₀.responseType = f.responseType.withoutComments := hresponse
    have htext : Commented false f₀.responseType.text.toList f.responseType.text.toList := by
      simpa only [htype, List.append_nil] using f.responseType.commented_text (.nil false)
    refine ⟨e.undocumented.callOf path₀ f₀, f₀.withBody f.function.body,
      asks_iff.2 ⟨path₀, ?_, rfl⟩, hcall, htext,
      congrArg (EmittedFunction.withBody · f.function.body) hdocs⟩
    rw [houtline₀]
    exact congrArg (fun g => Except.ok (path₀, g)) hbody.symm

/-- **No description gets out of its comment.** A documented text has no comment if it is blank, and
one complete comment otherwise. A printed module is the module without documentation, with complete
comments put in before declarations and members. Descriptions are nothing but documentation: without
them a schema has the same declaration, and an endpoint the same call and the same function, but for
comments. -/
theorem documentation_stays_inside :
    (∀ (n : Nat) (text : String),
      (docComment (String.ofList (List.replicate n ' ')) text = "" ↔
        Text.isAllBlank text = true) ∧
      (Text.isAllBlank text = false → CompleteComment (List.replicate n ' ')
        (docComment (String.ofList (List.replicate n ' ')) text).toList)) ∧
    (∀ m : Module,
      Commented true (Module.text (m.map Statement.withoutDocs)).toList (Module.text m).toList) ∧
    (∀ (key : String) (s : Schema),
      declare key s.undocumented = (declare key s).map Statement.withoutDocs) ∧
    ∀ (ctx : Context) (e : Endpoint) (names : Names) (call : CallInfo) (f : EmittedFunction),
      Asks ctx e names call f → ∃ call₀ f₀, Asks ctx e.undocumented names call₀ f₀ ∧
        call₀ = { call with response := call₀.response } ∧
        Commented false call₀.response.toList call.response.toList ∧
        f₀.withoutDocs = f.withoutDocs := by
  have hspaces : ∀ n, ∀ c ∈ List.replicate n ' ', c = ' ' := fun n c hc =>
    (List.mem_replicate.1 hc).2
  refine ⟨fun n text => ⟨docComment_eq_empty_iff (hspaces n), fun htext => ?_⟩,
    Module.commented_text, declare_undocumented, fun _ _ _ _ _ h => h.undocumented⟩
  refine completeComment_docComment (hspaces n) fun hblank => ?_
  rw [Text.isAllBlank, List.all_eq_true.2 hblank] at htext
  cases htext

/-! ## Descriptions with end marks -/

/-- A schema with descriptions that would end their comments. -/
def markedSchema : Schema :=
  { Schema.empty with
    type := some (.single "object")
    description := some "*/ a();\n**/"
    properties := some [("name", { Schema.empty with
      type := some (.single "string")
      description := some " */ " })] }

/-- An operation that responds with it. -/
def markedEndpoint : Endpoint :=
  { path := "/pets"
    method := .get
    summary := some "*/ b(); /*"
    route := []
    query := []
    body := none
    responses := .ofPairs [("200", ⟨none, .ofPairs [("application/json", ⟨some markedSchema⟩)]⟩)] }

/-- End marks in descriptions end no comment. -/
theorem documentation_stays_inside_marked :
    CompleteComment [' ', ' '] (docComment "  " "*/ a();\n**/").toList ∧
    (∃ s, declare "Pet" markedSchema = .ok s ∧
      Module.text [s] = "/**\n * *\\/ a();\n * **\\/\n */\n" ++
        "export interface Pet \x7b\n  /** *\\/ */\n  name: string;\n\x7d\n" ∧
      Module.text [s.withoutDocs] = "export interface Pet \x7b\n  name: string;\n\x7d\n" ∧
      Commented true (Module.text [s.withoutDocs]).toList (Module.text [s]).toList ∧
      declare "Pet" markedSchema.undocumented = .ok s.withoutDocs) ∧
    ∃ call f, Asks namesContext markedEndpoint (.ofModelTypes []) call f ∧
      f.function.doc = some "*/ b(); /*" ∧
      call.response = "\x7b\n  /** *\\/ */\n  name: string;\n\x7d" ∧
      ∃ call₀ f₀, Asks namesContext markedEndpoint.undocumented (.ofModelTypes []) call₀ f₀ ∧
        Commented false call₀.response.toList call.response.toList ∧
        f₀.withoutDocs = f.withoutDocs := by
  obtain ⟨hcomment, hmodule, hdeclare, hcall⟩ := documentation_stays_inside
  have hdeclared : ((declare "Pet" markedSchema).toOption.any fun s =>
      Module.text [s] == "/**\n * *\\/ a();\n * **\\/\n */\n" ++
        "export interface Pet \x7b\n  /** *\\/ */\n  name: string;\n\x7d\n" &&
      Module.text [s.withoutDocs] == "export interface Pet \x7b\n  name: string;\n\x7d\n") =
      true := by
    decide +kernel
  obtain ⟨s, hs, htexts⟩ := (Option.any_eq_true _ _).1 hdeclared
  obtain ⟨htext, hplain⟩ := (Bool.and_eq_true _ _).mp htexts
  have hundocumented : declare "Pet" markedSchema.undocumented = .ok s.withoutDocs := by
    rw [hdeclare, eq_ok_of_toOption hs]
    rfl
  have houtline : ((markedEndpoint.outline namesContext (.ofModelTypes [])).toOption.any fun o =>
      o.2.function.doc == some "*/ b(); /*" &&
        o.2.responseType.text == "\x7b\n  /** *\\/ */\n  name: string;\n\x7d") = true := by
    decide +kernel
  obtain ⟨⟨path, f⟩, hf, houtline⟩ := (Option.any_eq_true _ _).1 houtline
  obtain ⟨hdoc, hresponse⟩ := (Bool.and_eq_true _ _).mp houtline
  have hasks := asks_of_outline (eq_ok_of_toOption hf)
  obtain ⟨call₀, f₀, hasks₀, -, hcommented, hdocs⟩ := hcall _ _ _ _ _ hasks
  exact ⟨(hcomment 2 _).2 (by decide +kernel),
    ⟨s, eq_ok_of_toOption hs, eq_of_beq htext, eq_of_beq hplain, hmodule [s], hundocumented⟩,
    _, f, hasks, eq_of_beq hdoc, eq_of_beq hresponse, call₀, f₀, hasks₀, hcommented, hdocs⟩

end Request

end TypedRequests
