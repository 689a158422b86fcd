import Mathlib.Data.List.Forall2
import TypedRequests.Proofs.ClaimedNames
import TypedRequests.Proofs.Declarations
import TypedRequests.Proofs.Outputs

/-!
# Names that skipped endpoints leave taken

An endpoint claims its names before it comes out that one of its schemas has no type. It is skipped,
but its names stay taken, and an endpoint after it may get another name than it would have had
without it. Nothing else of that endpoint changes.

* `Alike`, `SameButNames` : two results that differ at most in names.
* `alike_emitFunctions` : whatever is taken, endpoints give the same functions but for their names.
* `SkipTrace` : what a skipped endpoint leaves behind in its module.
* `skipped_names_stay_taken` : every skipped endpoint does.
-/

set_option autoImplicit false

namespace TypedRequests.Request

open OpenApi TypeScript

variable {ctx : Context} {e : Endpoint} {names names' : Names}

/-! ## Functions that differ in names -/

/-- Two results are alike: the same failure, or values in the given relation. -/
inductive Alike {ε α : Type} (R : α → α → Prop) : Except ε α → Except ε α → Prop where
  | error (e : ε) : Alike R (.error e) (.error e)
  | ok {a b : α} (h : R a b) : Alike R (.ok a) (.ok b)

section Alike

variable {ε α β : Type} {R : α → α → Prop} {S : β → β → Prop} {x y : Except ε α}

theorem Alike.bind {f g : α → Except ε β} (h : Alike R x y)
    (hfg : ∀ a b, R a b → Alike S (f a) (g b)) : Alike S (x >>= f) (y >>= g) := by
  cases h with
  | error e => exact .error e
  | ok h => exact hfg _ _ h

theorem Alike.of_eq (x : Except ε α) : Alike Eq x x := by
  cases x with
  | error e => exact .error e
  | ok a => exact .ok rfl

end Alike

/-- The declaration under another name. -/
def renamed (name : String) : Statement → Statement
  | .interface d => .interface { d with name := name }
  | .enumeration d => .enumeration { d with name := name }
  | .alias d => .alias { d with name := name }
  | .function d => .function { d with name := name }
  | .importNames d => .importNames d

theorem types_renamed (name : String) (s : Statement) : (renamed name s).types = s.types := by
  cases s <;> rfl

/-- The two declarations differ at most in their names. -/
def SameButName (s t : Statement) : Prop :=
  ∀ name, renamed name s = renamed name t

theorem SameButName.types_eq {s t : Statement} (h : SameButName s t) : s.types = t.types := by
  rw [← types_renamed "" s, h "", types_renamed]

/-- Two functions differ at most in their names and in those of their query types. -/
structure SameButNames (f g : EmittedFunction) : Prop where
  doc : f.function.doc = g.function.doc
  parameters : f.function.parameters.map TypeScript.Parameter.name =
    g.function.parameters.map TypeScript.Parameter.name
  body : f.function.body = g.function.body
  query : Option.Rel SameButName (f.query.map Prod.snd) (g.query.map Prod.snd)
  routeTypes : f.routeTypes = g.routeTypes
  bodyType : f.bodyType = g.bodyType
  responseType : f.responseType = g.responseType

theorem sameButName_declareType (name name' : String) (doc : Option String) (t : TypeExpr) :
    SameButName (declareType name doc t) (declareType name' doc t) := by
  cases t <;> exact fun _ => rfl

/-- The key of a declaration counts for its name only. -/
theorem alike_declare (key key' : String) (s : Schema) :
    Alike SameButName (declare key s) (declare key' s) := by
  unfold declare
  split
  · cases s.describeObject with
    | error error => exact .error error
    | ok t => exact .ok (sameButName_declareType _ _ _ t)
  · cases s.resolve with
    | error error => exact .error error
    | ok r =>
      cases r with
      | values vs => exact .ok fun _ => rfl
      | type t => exact .ok (sameButName_declareType _ _ _ t)

theorem alike_emitQuery (e : Endpoint) (name name' : String) (names names' : Names) :
    Alike (fun q q' => Option.Rel SameButName (q.map Prod.snd) (q'.map Prod.snd))
      (e.emitQuery name names).1 (e.emitQuery name' names').1 := by
  unfold Endpoint.emitQuery
  split
  · exact .ok .none
  · simp only [Names.claimType]
    have hdeclare := alike_declare (names.typeName (Naming.queryTypeName name))
      (names'.typeName (Naming.queryTypeName name')) e.querySchema
    generalize declare _ _ = x at hdeclare
    generalize declare _ _ = y at hdeclare
    cases hdeclare with
    | error error => exact .error _
    | ok h => exact .ok (.some h)

/-- A function is finished in the same way under any name. -/
theorem alike_finish (e : Endpoint) (path name name' : String) (routeTypes : List TypeExpr)
    {query query' : Option (String × Statement)}
    (h : Option.Rel SameButName (query.map Prod.snd) (query'.map Prod.snd)) :
    Alike SameButNames (e.finish ctx path name routeTypes query)
      (e.finish ctx path name' routeTypes query') := by
  have hquery : ∀ {γ : Type} (c : γ), (query.map fun _ => c) = query'.map fun _ => c := by
    cases query <;> cases query' <;> first | exact fun _ => rfl | cases h
  unfold Endpoint.finish
  refine (Alike.of_eq e.emitBody).bind fun bodyType _ hbody => ?_
  subst hbody
  refine (Alike.of_eq e.emitResponse).bind fun responseType _ hresponse => ?_
  subst hresponse
  rw [hquery]
  refine (Alike.of_eq _).bind fun body _ hbody => ?_
  subst hbody
  refine .ok ⟨rfl, ?_, rfl, h, rfl, rfl, rfl⟩
  simp only [Endpoint.parameters, List.map_append, List.map_map]
  congr 2
  cases query <;> cases query' <;> first | rfl | cases h

/-- **Whatever names are taken, an endpoint gives the same but for its names.** -/
theorem alike_emitFunction (ctx : Context) (e : Endpoint) (names names' : Names) :
    Alike SameButNames (emitFunction ctx e names).1 (emitFunction ctx e names').1 := by
  rw [fst_emitFunction, fst_emitFunction]
  refine (Alike.of_eq _).bind fun path _ hpath => ?_
  subst hpath
  refine (Alike.of_eq _).bind fun routeTypes _ hroute => ?_
  subst hroute
  exact (alike_emitQuery ..).bind fun query query' hquery => alike_finish e path _ _ _ hquery

/-- **Whatever names are taken, endpoints give the same functions but for their names.** -/
theorem alike_emitFunctions (ctx : Context) (tag : String) (es : List Endpoint)
    (names names' : Names) :
    Alike (List.Forall₂ SameButNames) (emitFunctions ctx tag names es).result
      (emitFunctions ctx tag names' es).result := by
  induction es generalizing names names' with
  | nil => exact .ok .nil
  | cons e es ih =>
    rw [emitFunctions_cons, emitFunctions_cons]
    have hfirst := alike_emitFunction ctx e names names'
    generalize (emitFunction ctx e names).1 = x at hfirst
    generalize (emitFunction ctx e names').1 = y at hfirst
    have hrest := ih (emitFunction ctx e names).2 (emitFunction ctx e names').2
    cases hfirst with
    | error error =>
      cases error with
      | schema location error => exact hrest
      | document _ | render _ _ | write _ _ => exact .error _
    | ok h => exact hrest.bind fun fs fs' hfs => .ok (.cons h hfs)

theorem queryStatements_cons (f : EmittedFunction) (fs : List EmittedFunction) :
    queryStatements (f :: fs) = (f.query.map Prod.snd).toList ++ queryStatements fs := by
  cases hq : f.query <;> simp [queryStatements, hq]

/-- Functions that differ in names need the same names from the model module. -/
theorem modelImportsOf_of_sameButNames (ctx : Context) {fs fs' : List EmittedFunction}
    (h : List.Forall₂ SameButNames fs fs') : modelImportsOf ctx fs = modelImportsOf ctx fs' := by
  unfold modelImportsOf
  congr 1
  induction h with
  | nil => rfl
  | cons hf _ ih =>
    rw [List.flatMap_cons, List.flatMap_cons, ih, EmittedFunction.modelImports,
      EmittedFunction.modelImports, EmittedFunction.modelTypes, EmittedFunction.modelTypes,
      hf.routeTypes, hf.bodyType, hf.responseType]

/-- So do their query types. -/
theorem queryImportsOf_of_sameButNames (ctx : Context) {fs fs' : List EmittedFunction}
    (h : List.Forall₂ SameButNames fs fs') : queryImportsOf ctx fs = queryImportsOf ctx fs' := by
  unfold queryImportsOf
  congr 2
  induction h with
  | nil => rfl
  | cons hf _ ih =>
    rw [queryStatements_cons, queryStatements_cons, List.flatMap_append, List.flatMap_append, ih]
    have hq := hf.query
    generalize Option.map Prod.snd _ = q at hq
    generalize Option.map Prod.snd _ = q' at hq
    cases hq with
    | none => rfl
    | some hname => simp [Statement.references, hname.types_eq]

/-! ## What a skipped endpoint leaves behind -/

section Trace

variable {es es' : List Endpoint} {fs : List EmittedFunction}

theorem Emits.of_append (h : Emits ctx names (es ++ es') fs) :
    ∃ gs hs, fs = gs ++ hs ∧ Emits ctx names es gs ∧
      Emits ctx (namesAfter ctx names es) es' hs := by
  rw [← emits_iff "", emitFunctions_append] at h
  cases hg : (emitFunctions ctx "" names es).result with
  | error error =>
    rw [hg] at h
    cases h
  | ok gs =>
    cases hh : (emitFunctions ctx "" (namesAfter ctx names es) es').result with
    | error error =>
      rw [hg, hh] at h
      cases h
    | ok hs =>
      rw [hg, hh] at h
      cases h
      exact ⟨gs, hs, rfl, (emits_iff "").1 hg, (emits_iff "").1 hh⟩

/-- The names of functions and query types are taken afterwards. -/
theorem Emits.names_taken (h : Emits ctx names es fs) :
    (∀ f ∈ fs, f.function.name ∈ (namesAfter ctx names es).taken) ∧
      ∀ q ∈ queryTypes fs, q ∈ (namesAfter ctx names es).types := by
  induction h with
  | nil => exact ⟨nofun, nofun⟩
  | @emitted names names' e es f fs hf _ ih =>
    have hspec := (emitFunction_ok hf).names
    obtain ⟨htaken, htypes⟩ := namesAfter_extends ctx names' es
    have hnext : namesAfter ctx names (e :: es) = namesAfter ctx names' es := by
      rw [namesAfter, List.foldl_cons, hf]
      rfl
    rw [hspec] at htaken htypes
    rw [hnext, queryTypes_cons]
    refine ⟨List.forall_mem_cons.2 ⟨?_, ih.1⟩, fun q hq => ?_⟩
    · rw [hspec]
      exact htaken (List.mem_cons_self ..)
    · rcases List.mem_append.1 hq with hq | hq
      · rw [hspec]
        exact htypes (List.mem_append_left _ hq)
      · exact ih.2 q hq
  | @skipped names names' e es fs _ _ hf _ ih =>
    have hnext : namesAfter ctx names (e :: es) = namesAfter ctx names' es := by
      rw [namesAfter, List.foldl_cons, hf]
      rfl
    rw [hnext]
    exact ih

/-- Nothing has the names that a skipped endpoint has claimed: what comes before it has others, and
what comes after it finds them taken. -/
theorem Emits.unused {start : Names} {location : String} {error : SchemaError} {name : String}
    (h : Emits ctx start (es ++ e :: es') fs) (hnames : names = namesAfter ctx start es)
    (he : (emitFunction ctx e names).1 = .error (.schema location error))
    (hname : e.claimedFunction ctx names = some name) :
    (∀ f ∈ fs, f.function.name ≠ name) ∧ ∀ q ∈ e.claimedType ctx names, q ∉ queryTypes fs := by
  obtain ⟨gs, hs, rfl, hgs, hhs⟩ := h.of_append
  obtain ⟨hgf, hgq⟩ := hgs.names_taken
  have htaken := snd_emitFunction ctx e names
  rw [← hnames] at hgf hgq hhs
  rw [hname] at htaken
  cases hhs with
  | emitted hf _ =>
    rw [hf] at he
    cases he
  | skipped hf hhs =>
    rw [hf] at htaken
    simp only at htaken
    rw [htaken] at hhs
    refine ⟨fun f hf hfname => ?_, fun q hq hqs => ?_⟩
    · rcases List.mem_append.1 hf with hf | hf
      · exact Endpoint.claimedFunction_not_mem hname (hfname ▸ hgf f hf)
      · exact hhs.functionNames.1 f hf (hfname ▸ List.mem_cons_self ..)
    · rw [queryTypes, List.filterMap_append, List.map_append] at hqs
      rcases List.mem_append.1 hqs with hqs | hqs
      · exact Endpoint.claimedType_not_mem hq (hgq q hqs)
      · exact hhs.queryTypeNames.1 q hqs (List.mem_append_left _ (Option.mem_toList.2 hq))

end Trace

/-- What an endpoint that is skipped leaves behind in its module, which has some endpoints before it
and some after it. The endpoint is met when `names` are taken. -/
structure SkipTrace (ctx : Context) (modelTypes : List String) (m : TagModule)
    (before : List Endpoint) (e : Endpoint) (after : List Endpoint) (names : Names)
    (name : String) : Prop where
  /-- The endpoint has claimed a name that was free, and the one of its query type if it came to
  that. They stay taken. -/
  claimed : e.claimedFunction ctx names = some name
  taken : (emitFunction ctx e names).2 =
    ⟨name :: names.taken, (e.claimedType ctx names).toList ++ names.types⟩
  function_new : name ∉ names.taken
  type_new : ∀ q ∈ e.claimedType ctx names, q ∉ names.types
  /-- Therefore nothing in the module has these names. -/
  unused : ∀ fs, Emits ctx (Names.ofModelTypes modelTypes) m.endpoints fs →
    (∀ f ∈ fs, f.function.name ≠ name) ∧ ∀ q ∈ e.claimedType ctx names, q ∉ queryTypes fs
  /-- If no endpoint after it claims them otherwise, the module is the same without the endpoint. -/
  untouched : name ∉ (namesAfter ctx names after).taken →
    (∀ q ∈ e.claimedType ctx names, q ∉ (namesAfter ctx names after).types) →
      ∀ layout, (m.plan ctx layout modelTypes).result =
        (TagModule.plan { m with endpoints := before ++ after } ctx layout modelTypes).result
  /-- In any case the functions without the endpoint differ at most in names, and the modules import
  the same from the model module. -/
  alike : Alike (fun fs fs' => List.Forall₂ SameButNames fs fs' ∧
      modelImportsOf ctx fs = modelImportsOf ctx fs' ∧
      queryImportsOf ctx fs = queryImportsOf ctx fs')
    (emitFunctions ctx m.name (Names.ofModelTypes modelTypes) m.endpoints).result
    (emitFunctions ctx m.name (Names.ofModelTypes modelTypes) (before ++ after)).result

/-- The plan of a module depends on its endpoints only through their functions. -/
theorem result_plan_congr {m : TagModule} {modelTypes : List String} {endpoints : List Endpoint}
    (h : (emitFunctions ctx m.name (Names.ofModelTypes modelTypes) m.endpoints).result =
      (emitFunctions ctx m.name (Names.ofModelTypes modelTypes) endpoints).result)
    (layout : OutputLayout) :
    (m.plan ctx layout modelTypes).result =
      (TagModule.plan { m with endpoints := endpoints } ctx layout modelTypes).result := by
  unfold TagModule.plan
  simp only [h]
  generalize (emitFunctions ctx m.name (Names.ofModelTypes modelTypes) endpoints).result = result
  cases result with
  | error error => rfl
  | ok fs => cases fs <;> rfl

/-- An endpoint whose schemas have no type has claimed a name: only then are they looked at. -/
theorem exists_claimedFunction {location : String} {error : SchemaError}
    (he : (emitFunction ctx e names).1 = .error (.schema location error)) :
    ∃ name, e.claimedFunction ctx names = some name := by
  unfold Endpoint.claimedFunction
  cases hpath : e.requestPath ctx with
  | ok path => exact ⟨_, rfl⟩
  | error failure =>
    -- a path that cannot be rendered is another failure
    rw [fst_emitFunction, hpath] at he
    cases he
    unfold Endpoint.requestPath at hpath
    split at hpath
    · cases hpath
    · rename_i hook _
      cases hhook : hook e.path with
      | ok path =>
        rw [hhook] at hpath
        cases hpath
      | error message =>
        rw [hhook] at hpath
        cases hpath

/-- **A skipped endpoint leaves its names taken.** Without it the functions of its module differ at
most in names, and not even in these if its names are not claimed by another endpoint. -/
theorem skipped_names_stay_taken {m : TagModule} {modelTypes : List String}
    {before after : List Endpoint} {location : String} {error : SchemaError}
    (hm : m.endpoints = before ++ e :: after)
    (hnames : names = namesAfter ctx (Names.ofModelTypes modelTypes) before)
    (he : (emitFunction ctx e names).1 = .error (.schema location error)) :
    ∃ name, SkipTrace ctx modelTypes m before e after names name := by
  obtain ⟨name, hname⟩ := exists_claimedFunction he
  have htaken : (emitFunction ctx e names).2 =
      ⟨name :: names.taken, (e.claimedType ctx names).toList ++ names.types⟩ := by
    rw [snd_emitFunction, hname]
    rfl
  have hskip : (emitFunctions ctx m.name names (e :: after)).result =
      (emitFunctions ctx m.name (emitFunction ctx e names).2 after).result := by
    rw [emitFunctions_cons, he]
  refine ⟨name, hname, htaken, Endpoint.claimedFunction_not_mem hname,
    fun q hq => Endpoint.claimedType_not_mem hq, fun fs hfs => ?_, fun hfree htypeFree layout => ?_,
    ?_⟩
  · rw [hm] at hfs
    exact hfs.unused hnames he hname
  · have hwith :
        names.With [name] (e.claimedType ctx names).toList (emitFunction ctx e names).2 := by
      rw [htaken]
      exact ⟨fun n => by simp, fun n => by simp⟩
    have hsame := emitFunctions_of_names m.name hwith (List.forall_mem_singleton.2 hfree)
      fun q hq => htypeFree q (Option.mem_toList.1 hq)
    refine result_plan_congr ?_ layout
    rw [hm, emitFunctions_append, emitFunctions_append, ← hnames, hskip, hsame]
  · -- the endpoints before it and those after it are alike in both modules
    rw [hm, emitFunctions_append, emitFunctions_append, ← hnames, hskip]
    refine (alike_emitFunctions ctx m.name before _ _).bind fun gs gs' hgs => ?_
    refine (alike_emitFunctions ctx m.name after _ _).bind fun hs hs' hhs => .ok ?_
    have hfs := List.rel_append hgs hhs
    exact ⟨hfs, modelImportsOf_of_sameButNames ctx hfs, queryImportsOf_of_sameButNames ctx hfs⟩

/-! ## Two operations with one base name -/

/-- An endpoint whose response of success is an array without items. -/
def brokenPets : Endpoint :=
  ⟨"/pets", .get, none, [], [], none,
    .ofPairs [("200", ⟨none, .ofPairs [("application/json",
      ⟨some { Schema.empty with type := some (.single "array") }⟩)]⟩)]⟩

/-- An endpoint whose function has the same base name. -/
def petById : Endpoint :=
  ⟨"/pets/\x7bid\x7d", .get, none, [⟨"id", none, none⟩], [], none, .empty⟩

/-- An endpoint whose function has another base name. -/
def postToys : Endpoint :=
  ⟨"/toys", .post, none, [], [], none, .empty⟩

/-- The text of the endpoint module for endpoints of a tag. -/
def endpointTextOf (es : List Endpoint) : Option String :=
  (TagModule.plan ⟨"pets", "", es⟩ (.ofTemplate fun call => .ok call.url) apiLayout
    []).result.toOption.join.bind fun plan => plan.endpoint.toOption

theorem emitFunction_brokenPets :
    (emitFunction (.ofTemplate fun call => .ok call.url) brokenPets (Names.ofModelTypes [])).1 =
      .error (.schema "GET /pets response" .missingItems) := by
  have hfails : (match (emitFunction (.ofTemplate fun call => .ok call.url) brokenPets
      (Names.ofModelTypes [])).1 with
        | .error error => some error
        | .ok _ => none) = some (.schema "GET /pets response" .missingItems) := by
    decide +kernel
  split at hfails
  · rename_i heq
    rw [heq, Option.some.inj hfails]
  · cases hfails

/-- If no other endpoint claims its name, nothing in the module tells of a skipped endpoint. -/
theorem skipped_names_toys :
    (emitFunction (.ofTemplate fun call => .ok call.url) brokenPets (Names.ofModelTypes [])).1 =
      .error (.schema "GET /pets response" .missingItems) ∧
    SkipTrace (.ofTemplate fun call => .ok call.url) [] ⟨"pets", "", [brokenPets, postToys]⟩
      [] brokenPets [postToys] (Names.ofModelTypes []) "getPets" ∧
    endpointTextOf [brokenPets, postToys] = endpointTextOf [postToys] := by
  have hm : (TagModule.mk "pets" "" [brokenPets, postToys]).endpoints =
      [] ++ brokenPets :: [postToys] := rfl
  obtain ⟨name, htrace⟩ := skipped_names_stay_taken hm rfl emitFunction_brokenPets
  have hclaimed : brokenPets.claimedFunction (.ofTemplate fun call => .ok call.url)
      (Names.ofModelTypes []) = some "getPets" := by decide +kernel
  obtain rfl : "getPets" = name := Option.some.inj (hclaimed.symm.trans htrace.claimed)
  refine ⟨emitFunction_brokenPets, htrace, ?_⟩
  have hplan := htrace.untouched (by decide +kernel) (by decide +kernel) apiLayout
  unfold endpointTextOf
  rw [hplan, List.nil_append]

/-- A skipped endpoint takes the name that the one after it would have had. -/
theorem skipped_name_stays_taken :
    (emitFunction (.ofTemplate fun call => .ok call.url) brokenPets (Names.ofModelTypes [])).1 =
      .error (.schema "GET /pets response" .missingItems) ∧
    (emitFunction (.ofTemplate fun call => .ok call.url) brokenPets (Names.ofModelTypes [])).2 ≠
      Names.ofModelTypes [] ∧
    endpointTextOf [brokenPets, petById] = some ("/** @param id */\n" ++
      "export function getPetsById(id: string) \x7b\n  return `/pets/$\x7bid\x7d`;\n\x7d\n") ∧
    endpointTextOf [petById] = some ("/** @param id */\n" ++
      "export function getPets(id: string) \x7b\n  return `/pets/$\x7bid\x7d`;\n\x7d\n") :=
  ⟨emitFunction_brokenPets, by decide +kernel, by decide +kernel, by decide +kernel⟩

end TypedRequests.Request
