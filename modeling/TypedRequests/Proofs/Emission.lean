import TypedRequests.Proofs.DistinctNames
import TypedRequests.Request.Assembly

/-!
# Emission of functions

What the functions of a module are made of, and which endpoints have none.

* `Emitted` : a function that an endpoint gives, with the names before and afterwards.
* `emitFunction_ok`, `fst_emitFunction`, `emitFunction_extends` : what becomes of one endpoint.
* `Emitted.parameterTypes` : the signature of a function has the types that are kept with it.
* `Emits`, `emits_iff` : what becomes of all endpoints of a module.
* `plan_eq_some_iff` : the plan of a module is that of its functions.
-/

set_option autoImplicit false

namespace TypedRequests.Request

open OpenApi TypeScript

/-! ## One endpoint -/

/-- The endpoint gives the function. Before and afterwards the given names are taken. -/
structure Emitted (ctx : Context) (e : Endpoint) (names : Names) (f : EmittedFunction)
    (names' : Names) : Prop where
  name : ∃ path, e.requestPath ctx = .ok path ∧
    f.function.name = names.functionName (Naming.functionName e.method path) e.routeNames
  queryName : f.query.map Prod.fst = if e.query.isEmpty then none
    else some (names.typeName (Naming.queryTypeName f.function.name))
  queryType : ∀ q ∈ f.query, declare q.1 e.querySchema = .ok q.2
  routeTypes : e.routeTypes e.route = .ok f.routeTypes
  bodyType : e.emitBody = .ok f.bodyType
  responseType : e.emitResponse = .ok f.responseType
  parameters : f.function.parameters = e.parameters f.routeTypes f.query f.bodyType
  names : names' =
    ⟨f.function.name :: names.taken, (f.query.map Prod.fst).toList ++ names.types⟩

variable {ctx : Context} {e : Endpoint} {es : List Endpoint}
  {names names' : Names} {f : EmittedFunction} {fs : List EmittedFunction}

/-- What a finished function is made of. -/
theorem finish_ok {path name : String} {routeTypes : List TypeExpr}
    {query : Option (String × Statement)} (h : e.finish ctx path name routeTypes query = .ok f) :
    f.function.name = name ∧ f.query = query ∧ f.routeTypes = routeTypes ∧
      e.emitBody = .ok f.bodyType ∧ e.emitResponse = .ok f.responseType ∧
      f.function.parameters = e.parameters f.routeTypes f.query f.bodyType := by
  unfold Endpoint.finish at h
  cases hb : e.emitBody with
  | error err => rw [hb] at h; cases h
  | ok bodyType =>
    cases hr : e.emitResponse with
    | error err => rw [hb, hr] at h; cases h
    | ok responseType =>
      rw [hb, hr] at h
      simp only [bind, Except.bind] at h
      split at h
      · cases h
      · cases h
        exact ⟨rfl, rfl, rfl, rfl, rfl, rfl⟩

/-- The query type of an endpoint with query parameters, and the names that are taken with it. -/
theorem emitQuery_ok {function : String} {query : Option (String × Statement)}
    (h : e.emitQuery function names = (.ok query, names')) :
    (query.map Prod.fst = if e.query.isEmpty then none
        else some (names.typeName (Naming.queryTypeName function))) ∧
      (∀ q ∈ query, declare q.1 e.querySchema = .ok q.2) ∧
      names' = ⟨names.taken, (query.map Prod.fst).toList ++ names.types⟩ := by
  unfold Endpoint.emitQuery at h
  by_cases hq : e.query.isEmpty = true
  · rw [if_pos hq] at h ⊢
    cases h
    exact ⟨rfl, fun q hq => (nomatch hq), rfl⟩
  · rw [if_neg hq] at h ⊢
    simp only [Names.claimType] at h
    generalize hname : names.typeName (Naming.queryTypeName function) = name at h ⊢
    cases hd : declare name e.querySchema with
    | error err =>
      rw [hd] at h
      cases h
    | ok s =>
      rw [hd] at h
      cases h
      exact ⟨rfl, fun q hq => by cases hq; exact hd, rfl⟩

/-- **An endpoint with a function gives one made of its own parts.** -/
theorem emitFunction_ok (h : emitFunction ctx e names = (.ok f, names')) :
    Emitted ctx e names f names' := by
  unfold emitFunction at h
  split at h
  · cases h
  · rename_i path hpath
    simp only [Names.claim] at h
    split at h
    · cases h
    · rename_i routeTypes hroute
      split at h
      · cases h
      · rename_i query names'' hquery
        obtain ⟨hf, rfl⟩ := Prod.mk.inj h
        obtain ⟨hname, rfl, rfl, hbody, hresponse, hparameters⟩ := finish_ok hf
        obtain ⟨hqname, hqtype, hnames⟩ := emitQuery_ok hquery
        rw [← hname] at hqname hnames
        exact ⟨⟨path, hpath, hname⟩, hqname, hqtype, hroute, hbody, hresponse, hparameters, hnames⟩

/-- The result for an endpoint, step by step. -/
theorem fst_emitFunction (ctx : Context) (e : Endpoint) (names : Names) :
    (emitFunction ctx e names).1 = (do
      let path ← e.requestPath ctx
      let name := names.functionName (Naming.functionName e.method path) e.routeNames
      let routeTypes ← e.routeTypes e.route
      let query ← (e.emitQuery name ⟨name :: names.taken, names.types⟩).1
      e.finish ctx path name routeTypes query) := by
  unfold emitFunction
  cases e.requestPath ctx with
  | error error => rfl
  | ok path =>
    simp only [Names.claim, bind, Except.bind]
    cases e.routeTypes e.route with
    | error error => rfl
    | ok routeTypes =>
      simp only
      generalize e.emitQuery _ _ = q
      obtain ⟨query, names'⟩ := q
      cases query <;> rfl

/-- A query type takes a name among types and none among functions. -/
theorem emitQuery_extends (e : Endpoint) (function : String) (names : Names) :
    (e.emitQuery function names).2.taken = names.taken ∧
      names.types ⊆ (e.emitQuery function names).2.types := by
  unfold Endpoint.emitQuery
  by_cases hq : e.query.isEmpty = true
  · rw [if_pos hq]
    exact ⟨rfl, List.Subset.refl _⟩
  · rw [if_neg hq]
    exact ⟨rfl, List.subset_cons_self _ _⟩

/-- Whatever becomes of an endpoint, the names taken before stay taken. -/
theorem emitFunction_extends (ctx : Context) (e : Endpoint) (names : Names) :
    names.taken ⊆ (emitFunction ctx e names).2.taken ∧
      names.types ⊆ (emitFunction ctx e names).2.types := by
  unfold emitFunction
  split
  · exact ⟨List.Subset.refl _, List.Subset.refl _⟩
  · simp only [Names.claim]
    split
    · exact ⟨List.subset_cons_self _ _, List.Subset.refl _⟩
    · rename_i path _ _ _ _
      obtain ⟨htaken, htypes⟩ := emitQuery_extends e
        (names.functionName (Naming.functionName e.method path) e.routeNames)
        ⟨names.functionName (Naming.functionName e.method path) e.routeNames :: names.taken,
          names.types⟩
      split
      · rename_i heq
        rw [heq] at htaken htypes
        exact ⟨htaken ▸ List.subset_cons_self _ _, htypes⟩
      · rename_i heq
        rw [heq] at htaken htypes
        exact ⟨htaken ▸ List.subset_cons_self _ _, htypes⟩

/-! ## Signatures -/

theorem length_distinctIdentifiers (used identifiers : List String) :
    (distinctIdentifiers used identifiers).length = identifiers.length := by
  induction identifiers generalizing used with
  | nil => rfl
  | cons identifier rest ih => simp only [distinctIdentifiers, List.length_cons, ih]

theorem length_routeTypes {route : List RouteParameter} {types : List TypeExpr}
    (h : e.routeTypes route = .ok types) : types.length = route.length := by
  induction route generalizing types with
  | nil =>
    cases h
    rfl
  | cons r route ih =>
    unfold Endpoint.routeTypes at h
    cases ht : e.routeType r with
    | error err =>
      rw [ht] at h
      cases h
    | ok t =>
      cases hts : e.routeTypes route with
      | error err =>
        rw [ht, hts] at h
        cases h
      | ok ts =>
        rw [ht, hts] at h
        cases h
        rw [List.length_cons, List.length_cons, ih hts]

/-- The endpoints give the functions, one after the other. One whose schemas have no type gives
none, but the names it has claimed stay taken. -/
inductive Emits (ctx : Context) : Names → List Endpoint → List EmittedFunction → Prop where
  | nil {names : Names} : Emits ctx names [] []
  | emitted {names names' : Names} {e : Endpoint} {es : List Endpoint} {f : EmittedFunction}
      {fs : List EmittedFunction} (h : emitFunction ctx e names = (.ok f, names'))
      (hs : Emits ctx names' es fs) : Emits ctx names (e :: es) (f :: fs)
  | skipped {names names' : Names} {e : Endpoint} {es : List Endpoint}
      {fs : List EmittedFunction} {location : String} {error : SchemaError}
      (h : emitFunction ctx e names = (.error (.schema location error), names'))
      (hs : Emits ctx names' es fs) : Emits ctx names (e :: es) fs

theorem Outcome.map_result_eq_ok {α β : Type} {g : α → β} {o : Outcome α} {b : β} :
    (o.map g).result = .ok b ↔ ∃ a, o.result = .ok a ∧ g a = b := by
  obtain ⟨_, result⟩ := o
  cases result <;> simp [Outcome.map, Except.map]

/-- **The functions of endpoints are those that the endpoints give.** -/
theorem emits_iff (tag : String) :
    (emitFunctions ctx tag names es).result = .ok fs ↔ Emits ctx names es fs := by
  constructor
  · intro h
    induction es generalizing names fs with
    | nil =>
      cases h
      exact .nil
    | cons e es ih =>
      unfold emitFunctions at h
      split at h
      · rename_i f names' hf
        obtain ⟨rest, hrest, rfl⟩ := Outcome.map_result_eq_ok.1 h
        exact .emitted hf (ih hrest)
      · rename_i hf
        exact .skipped hf (ih h)
      · cases h
  · intro h
    induction h with
    | nil => rfl
    | emitted hf _ ih =>
      rw [emitFunctions, hf]
      exact Outcome.map_result_eq_ok.2 ⟨_, ih, rfl⟩
    | skipped hf _ ih =>
      rw [emitFunctions, hf]
      exact ih

/-- Every function that endpoints give is emitted from one of them. -/
theorem Emits.exists_emitted (h : Emits ctx names es fs) {f : EmittedFunction} (hf : f ∈ fs) :
    ∃ e ∈ es, ∃ before after, Emitted ctx e before f after := by
  induction h with
  | nil => cases hf
  | @emitted _ _ e _ _ _ he _ ih =>
    rcases List.mem_cons.1 hf with rfl | hf
    · exact ⟨e, List.mem_cons_self .., _, _, emitFunction_ok he⟩
    · obtain ⟨e', he', hemitted⟩ := ih hf
      exact ⟨e', List.mem_cons_of_mem _ he', hemitted⟩
  | skipped _ _ ih =>
    obtain ⟨e', he', hemitted⟩ := ih hf
    exact ⟨e', List.mem_cons_of_mem _ he', hemitted⟩

/-- **The plan of a module is that of its functions**, of which there is at least one. -/
theorem plan_eq_some_iff {m : TagModule} {layout : OutputLayout} {modelTypes : List String}
    {plan : TagPlan} :
    (m.plan ctx layout modelTypes).result = .ok (some plan) ↔
      ∃ fs, Emits ctx (Names.ofModelTypes modelTypes) m.endpoints fs ∧ fs ≠ [] ∧
        plan = planOf ctx layout m.name fs := by
  unfold TagModule.plan
  simp only [← emits_iff m.name]
  generalize emitFunctions ctx m.name (Names.ofModelTypes modelTypes) m.endpoints = o
  obtain ⟨notices, result⟩ := o
  cases result with
  | error err => simp
  | ok fs =>
    cases fs with
    | nil => simp
    | cons f fs => simp [eq_comm]

end TypedRequests.Request
