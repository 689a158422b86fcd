import TypedRequests.Proofs.Containment

/-!
# Failures to render

The template and the hooks belong to the settings, and any of them may fail. A function that fails
to render ends the modules of its tag before anything is written. The hook of code comes after the
query module, which is then left behind without an endpoint module.

* `Endpoint.Refused`, `Attempt` : how a step for an endpoint fails.
* `emitFunctions_error` : the functions of a module fail only to render.
* `TagPlan.write_render_error` : what a plan leaves whose endpoint module fails to render.
* `RenderFailure`, `render_failures` : what a failure to render leaves of the files.
* `query_module_left` : a query module without an endpoint module.
-/

set_option autoImplicit false

namespace TypedRequests.Request

open OpenApi TypeScript FileMap

/-! ## One endpoint -/

/-- The settings refuse an endpoint: the hook its path, or the template its call. -/
inductive Endpoint.Refused (ctx : Context) (e : Endpoint) : Rendering → String → Prop where
  | path {hook : TextHook} {message : String} (hhook : ctx.pathHook = some hook)
      (h : hook e.path = .error message) : Endpoint.Refused ctx e .path message
  | call {call : CallInfo} {message : String} (hmethod : call.method = e.method)
      (h : ctx.template call = .error message) : Endpoint.Refused ctx e .call message

theorem Endpoint.Refused.ne_code {ctx : Context} {e : Endpoint} {what : Rendering}
    {message : String} (h : e.Refused ctx what message) : what ≠ .code := by
  cases h <;> exact nofun

/-- A step for an endpoint: it fails for want of a type, or because the settings refuse it, and else
it succeeds. -/
inductive Attempt (ctx : Context) (e : Endpoint) {α : Type} : Except GenerateError α → Prop where
  | untyped (location : String) (error : SchemaError) :
      Attempt ctx e (.error (.schema location error))
  | refused {what : Rendering} {message : String} (h : e.Refused ctx what message) :
      Attempt ctx e (.error (.render what message))
  | done (a : α) : Attempt ctx e (.ok a)

namespace Attempt

variable {ctx : Context} {e : Endpoint} {α β : Type} {x : Except GenerateError α}

theorem bind {f : α → Except GenerateError β} (h : Attempt ctx e x)
    (hf : ∀ a, Attempt ctx e (f a)) : Attempt ctx e (x >>= f) := by
  cases h with
  | untyped location error => exact .untyped location error
  | refused h => exact .refused h
  | done a => exact hf a

theorem map (h : Attempt ctx e x) (f : α → β) : Attempt ctx e (x.map f) := by
  cases h with
  | untyped location error => exact .untyped location error
  | refused h => exact .refused h
  | done a => exact .done (f a)

theorem typing (x : Except SchemaError α) (location : String) :
    Attempt ctx e (x.mapError (.schema location)) := by
  cases x with
  | error error => exact .untyped location error
  | ok a => exact .done a

theorem requestPath : Attempt ctx e (e.requestPath ctx) := by
  unfold Endpoint.requestPath
  cases hhook : ctx.pathHook with
  | none => exact .done e.path
  | some hook =>
    cases h : hook e.path with
    | error message =>
      simp only [h]
      exact .refused (.path hhook h)
    | ok path =>
      simp only [h]
      exact .done path

theorem routeTypes (rs : List RouteParameter) : Attempt ctx e (e.routeTypes rs) := by
  induction rs with
  | nil => exact .done []
  | cons r rs ih =>
    have hr : Attempt ctx e (e.routeType r) := by
      unfold Endpoint.routeType
      cases r.schema with
      | none => exact .done TypeExpr.string
      | some s => exact typing s.describe _
    exact hr.bind fun t => ih.bind fun ts => .done (t :: ts)

theorem emitQuery (function : String) (names : Names) :
    Attempt ctx e (e.emitQuery function names).1 := by
  unfold Endpoint.emitQuery
  by_cases hq : e.query.isEmpty = true
  · rw [if_pos hq]
    exact .done none
  · rw [if_neg hq]
    exact (typing (declare _ e.querySchema) _).map _

theorem emitBody : Attempt ctx e e.emitBody := by
  unfold Endpoint.emitBody
  cases e.body with
  | none => exact .done none
  | some body => exact (typing (Schema.typeOf body.jsonSchema?) _).map some

theorem rendered {call : CallInfo} (hmethod : call.method = e.method) :
    Attempt ctx e ((ctx.template call).mapError (.render .call)) := by
  cases h : ctx.template call with
  | error message => exact .refused (.call hmethod h)
  | ok text => exact .done text

theorem finish (path name : String) (routeTypes : List TypeExpr)
    (query : Option (String × Statement)) :
    Attempt ctx e (e.finish ctx path name routeTypes query) :=
  emitBody.bind fun _ => (typing (Schema.typeOf e.successSchema?) _).bind fun _ =>
    (rendered rfl).bind fun _ => .done _

/-- **An endpoint fails for want of a type, or because the settings refuse it.** -/
theorem emitFunction (names : Names) : Attempt ctx e (emitFunction ctx e names).1 := by
  rw [fst_emitFunction]
  exact requestPath.bind fun path => (routeTypes e.route).bind fun types =>
    (emitQuery _ _).bind fun query => finish path _ types query

end Attempt

/-! ## Modules -/

variable {ctx : Context} {layout : OutputLayout} {modelTypes : List String} {m : TagModule}

/-- **The functions of endpoints fail only to render**: one that has no type is left out. -/
theorem emitFunctions_error {tag : String} {names : Names} {es : List Endpoint}
    {error : GenerateError} (h : (emitFunctions ctx tag names es).result = .error error) :
    ∃ what message, error = .render what message ∧ ∃ e ∈ es, e.Refused ctx what message := by
  induction es generalizing names with
  | nil => cases h
  | cons e es ih =>
    have hrest : ∀ names, (emitFunctions ctx tag names es).result = .error error →
        ∃ what message, error = .render what message ∧
          ∃ e' ∈ e :: es, e'.Refused ctx what message := by
      intro names h
      obtain ⟨what, message, hwhat, e', he', hrefused⟩ := ih h
      exact ⟨what, message, hwhat, e', List.mem_cons_of_mem _ he', hrefused⟩
    have hattempt : Attempt ctx e (emitFunction ctx e names).1 := Attempt.emitFunction names
    rw [emitFunctions] at h
    cases hf : emitFunction ctx e names with
    | mk result names' =>
      rw [hf] at h hattempt
      cases hattempt with
      | untyped location error => exact hrest names' h
      | @refused what message hrefused =>
        cases h
        exact ⟨what, message, rfl, e, List.mem_cons_self .., hrefused⟩
      | done f =>
        refine hrest names' ?_
        cases hr : (emitFunctions ctx tag names' es).result with
        | error error' =>
          simp only [Outcome.map, hr] at h
          exact h
        | ok fs =>
          simp only [Outcome.map, hr] at h
          cases h

theorem plan_error {error : GenerateError}
    (h : (m.plan ctx layout modelTypes).result = .error error) :
    ∃ what message, error = .render what message ∧
      ∃ e ∈ m.endpoints, e.Refused ctx what message := by
  unfold TagModule.plan at h
  simp only at h
  split at h
  · rename_i error' herror
    cases h
    exact emitFunctions_error herror
  · cases h
  · cases h

/-- An endpoint module fails to render exactly if the hook of code refuses its text. -/
theorem endpointText_eq_error_iff {module : Module} {error : GenerateError} :
    endpointText ctx module = .error error ↔
      ∃ hook message, ctx.codeHook = some hook ∧ hook module.text = .error message ∧
        error = .render .code message := by
  unfold endpointText
  cases hhook : ctx.codeHook with
  | none => simp
  | some hook =>
    cases htext : hook module.text with
    | error message => simp [htext, Except.mapError, eq_comm]
    | ok text => simp [htext, Except.mapError]

/-! ## Writing -/

section Write

variable {σ : Type} {w : FileWriter (StateM σ)} {s s' : σ}

/-- A file that cannot be written is no failure to render. -/
theorem writeModule_error {p : Path} {text : String} {error : GenerateError}
    (h : writeModule w p text s = (.error error, s')) : ∃ e, error = .write p e := by
  have hfst : (w.write p text s).1.mapError (GenerateError.write p) = .error error :=
    congrArg Prod.fst h
  cases hwritten : (w.write p text s).1 with
  | error e =>
    rw [hwritten] at hfst
    exact ⟨e, (Except.error.inj hfst).symm⟩
  | ok =>
    rw [hwritten] at hfst
    cases hfst

/-- What is left of the state of a writer when the query module of a plan is written. -/
theorem TagPlan.snd_writeQuery (plan : TagPlan) (w : FileWriter (StateM σ)) (s : σ) :
    (plan.writeQuery w s).2 = match plan.query with
      | none => s
      | some text => (writeModule w plan.queryPath text s).2 := by
  unfold TagPlan.writeQuery
  cases plan.query with
  | none => rfl
  | some text =>
    cases hwritten : writeModule w plan.queryPath text s with
    | mk written s' =>
      simp only
      rw [bind_eq hwritten, hwritten]
      cases written <;> rfl

/-- **A plan whose endpoint module fails to render leaves its query module.** Nothing else of a plan
fails to render. -/
theorem TagPlan.write_render_error {plan : TagPlan} {what : Rendering} {message : String}
    (h : (plan.write w s).1.result = .error (.render what message)) :
    plan.endpoint = .error (.render what message) ∧
      (plan.write w s).2 = (plan.writeQuery w s).2 := by
  unfold TagPlan.write at h ⊢
  cases hquery : plan.writeQuery w s with
  | mk query s₁ =>
    rw [bind_eq hquery] at h ⊢
    cases htext : plan.endpoint with
    | error error =>
      simp only [htext] at h ⊢
      have herror : error = .render what message := Except.error.inj h
      exact ⟨congrArg Except.error herror, rfl⟩
    | ok text =>
      simp only [htext] at h
      cases hwritten : writeModule w plan.endpointPath text s₁ with
      | mk written s₂ =>
        rw [bind_eq hwritten] at h
        cases written with
        | error error =>
          obtain ⟨e, rfl⟩ := writeModule_error hwritten
          cases h
        | ok => cases h

end Write

/-! ## The modules of a tag -/

/-- What it means that the modules of a tag fail to render, and what that leaves of the state of a
writer. -/
structure RenderFailure {σ : Type} (ctx : Context) (layout : OutputLayout)
    (modelTypes : List String) (m : TagModule) (w : FileWriter (StateM σ)) (s : σ)
    (what : Rendering) (message : String) : Prop where
  /-- If it is not the hook of code that fails, the settings refuse an endpoint, and the state is as
  before. -/
  function : what ≠ .code → (∃ e ∈ m.endpoints, e.Refused ctx what message) ∧
    (m.assemble ctx layout modelTypes w s).2 = s
  /-- The hook of code refuses the endpoint module. What is left then is the query module of the
  functions, if there is one. -/
  module : what = .code → ∃ fs, Emits ctx (Names.ofModelTypes modelTypes) m.endpoints fs ∧
    (∃ hook, ctx.codeHook = some hook ∧
      hook (endpointModule ctx layout m.name fs).text = .error message) ∧
    (m.assemble ctx layout modelTypes w s).2 =
      if ∃ f ∈ fs, f.query.isSome = true then
        (writeModule w (m.queryPath layout) (queryModule ctx layout m.name fs).text s).2
      else s
  /-- Without query parameters the state is as before, whatever fails. -/
  noQuery : (∀ e ∈ m.endpoints, e.query = []) → (m.assemble ctx layout modelTypes w s).2 = s

/-- Without query parameters there are no query types. -/
theorem Emits.not_exists_query {names : Names} {es : List Endpoint} {fs : List EmittedFunction}
    (h : Emits ctx names es fs) (hes : ∀ e ∈ es, e.query = []) :
    ¬ ∃ f ∈ fs, f.query.isSome = true := by
  rintro ⟨f, hf, hquery⟩
  obtain ⟨e, he, before, after, hemitted⟩ := h.exists_emitted hf
  have hempty : e.query.isEmpty = true := List.isEmpty_iff.2 (hes e he)
  have hname := hemitted.queryName
  rw [if_pos hempty, Option.map_eq_none_iff] at hname
  rw [hname] at hquery
  cases hquery

theorem renderFailure {σ : Type} {w : FileWriter (StateM σ)} {s : σ} {what : Rendering}
    {message : String}
    (h : (m.assemble ctx layout modelTypes w s).1.result = .error (.render what message)) :
    RenderFailure ctx layout modelTypes m w s what message := by
  cases hr : (m.plan ctx layout modelTypes).result with
  | error error =>
    -- a function fails before anything is written
    have hrun := assemble_of_error (w := w) (s := s) hr
    rw [hrun] at h
    obtain ⟨what', message', rfl, e, he, hrefused⟩ := plan_error hr
    cases h
    exact ⟨fun _ => ⟨⟨e, he, hrefused⟩, by rw [hrun]⟩, fun hcode => absurd hcode hrefused.ne_code,
      fun _ => by rw [hrun]⟩
  | ok plan? =>
    cases plan? with
    | none =>
      rw [assemble_of_none hr] at h
      cases h
    | some plan =>
      have hrun := assemble_of_plan (w := w) (s := s) hr
      have hwrite : (plan.write w s).1.result = .error (.render what message) := by
        rw [hrun] at h
        cases hresult : (plan.write w s).1.result with
        | error error =>
          simp only [Outcome.after, Outcome.map, hresult] at h
          exact congrArg Except.error (Except.error.inj h)
        | ok output =>
          simp only [Outcome.after, Outcome.map, hresult] at h
          cases h
      obtain ⟨hendpoint, hstate⟩ := TagPlan.write_render_error hwrite
      obtain ⟨fs, hfs, -, rfl⟩ := plan_eq_some_iff.1 hr
      obtain ⟨hook, message', hhook, htext, herror⟩ := endpointText_eq_error_iff.1 hendpoint
      cases herror
      have hleft : (m.assemble ctx layout modelTypes w s).2 =
          if ∃ f ∈ fs, f.query.isSome = true then
            (writeModule w (m.queryPath layout) (queryModule ctx layout m.name fs).text s).2
          else s := by
        have hpath : (planOf ctx layout m.name fs).queryPath = m.queryPath layout := by
          simp only [planOf, TagModule.queryPath]
        rw [hrun, hstate, TagPlan.snd_writeQuery, query_planOf, hpath]
        by_cases hquery : ∃ f ∈ fs, f.query.isSome = true
        · rw [if_pos hquery, if_pos hquery]
        · rw [if_neg hquery, if_neg hquery]
      refine ⟨fun hcode => absurd rfl hcode, fun _ => ⟨fs, hfs, ⟨hook, hhook, htext⟩, hleft⟩,
        fun hes => ?_⟩
      rw [hleft, if_neg (hfs.not_exists_query hes)]

/-- All files but the query module of a tag are as before. -/
def OnlyQueryModule (layout : OutputLayout) (m : TagModule) (before after : FileMap) : Prop :=
  ∀ q : Path, (m.queryPath layout).parts ≠ q.parts → after.find? q = before.find? q

theorem onlyQueryModule_refusing {r : Refusals} {files : FileMap} {what : Rendering}
    {message : String}
    (h : (m.assemble ctx layout modelTypes (refusing r) files).1.result =
      .error (.render what message)) :
    OnlyQueryModule layout m files (m.assemble ctx layout modelTypes (refusing r) files).2 := by
  intro q hq
  have hfailure := renderFailure h
  by_cases hcode : what = .code
  · obtain ⟨fs, -, -, hleft⟩ := hfailure.module hcode
    rw [hleft]
    split
    · rw [writeModule_refusing, find?_applyAll]
      refine effectAll_of_not_touches (fun c hc ht => ?_) _
      obtain ⟨p, rfl, hp⟩ := (Refusals.writesIn_changes rfl c hc).exists_of_touches ht
      exact hq hp
    · rfl
  · rw [(hfailure.function hcode).2]

/-- **A failure to render leaves a query module at most.** If a function of a tag fails to render,
the state of the writer is as before, for every writer. If the hook of code fails, what is left is
what writing the query module leaves; of files in memory all others are as before, and so is the
endpoint module. -/
theorem render_failures (ctx : Context) (layout : OutputLayout) (modelTypes : List String)
    (m : TagModule) (what : Rendering) (message : String) :
    (∀ (σ : Type) (w : FileWriter (StateM σ)) (s : σ),
      (m.assemble ctx layout modelTypes w s).1.result = .error (.render what message) →
        RenderFailure ctx layout modelTypes m w s what message) ∧
    (∀ (r : Refusals) (files : FileMap),
      (m.assemble ctx layout modelTypes (refusing r) files).1.result =
          .error (.render what message) →
        OnlyQueryModule layout m files
          (m.assemble ctx layout modelTypes (refusing r) files).2) ∧
    ∀ (failing : List Path) (files : FileMap),
      (m.assemble ctx layout modelTypes (FileMap.writer failing) files).1.result =
          .error (.render what message) →
        OnlyQueryModule layout m files
          (m.assemble ctx layout modelTypes (FileMap.writer failing) files).2 := by
  refine ⟨fun σ w s => renderFailure, fun r files => onlyQueryModule_refusing, fun failing => ?_⟩
  rw [writer_eq_refusing]
  exact fun files => onlyQueryModule_refusing

/-- A template that fails. -/
def brokenTemplate : Context :=
  .ofTemplate fun _ => .error "boom"

/-- A hook of code that fails. -/
def brokenCode : Context :=
  { Context.ofTemplate fun call => .ok call.url with codeHook := some fun _ => .error "boom" }

theorem render_failures_pets :
    (limitedPets.assemble brokenTemplate ⟨⟨"api"⟩, ⟨"api/model.ts"⟩⟩ [] (FileMap.writer [])
        .empty).2 = .empty ∧
      (limitedPets.assemble brokenCode ⟨⟨"api"⟩, ⟨"api/model.ts"⟩⟩ [] (FileMap.writer [])
        .empty).2.find? ⟨"api/pets/index.ts"⟩ = none := by
  have hcall : (limitedPets.assemble brokenTemplate ⟨⟨"api"⟩, ⟨"api/model.ts"⟩⟩ []
      (FileMap.writer []) .empty).1.result = .error (.render .call "boom") := by decide +kernel
  have hcode : (limitedPets.assemble brokenCode ⟨⟨"api"⟩, ⟨"api/model.ts"⟩⟩ []
      (FileMap.writer []) .empty).1.result = .error (.render .code "boom") := by decide +kernel
  obtain ⟨hany, -, -⟩ := render_failures brokenTemplate ⟨⟨"api"⟩, ⟨"api/model.ts"⟩⟩ [] limitedPets
    .call "boom"
  obtain ⟨-, -, hfiles⟩ := render_failures brokenCode ⟨⟨"api"⟩, ⟨"api/model.ts"⟩⟩ [] limitedPets
    .code "boom"
  refine ⟨((hany FileMap (FileMap.writer []) .empty hcall).function (by decide)).2, ?_⟩
  exact hfiles [] .empty hcode ⟨"api/pets/index.ts"⟩ (by decide +kernel)

/-- A failing hook of code leaves a query module where there was no file. -/
theorem query_module_left :
    let run := limitedPets.assemble brokenCode ⟨⟨"api"⟩, ⟨"api/model.ts"⟩⟩ [] (FileMap.writer [])
      .empty
    run.1.result = .error (.render .code "boom") ∧
      FileMap.empty.find? ⟨"api/pets/model.ts"⟩ = none ∧
      run.2.find? ⟨"api/pets/model.ts"⟩ =
        some ("/** query params */\nexport interface GetPetsQuery \x7b\n" ++
          "  limit?: unknown;\n\x7d\n") := by
  decide +kernel

end TypedRequests.Request
