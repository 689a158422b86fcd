import TypedRequests.Proofs.Emission

/-!
# What the template is asked

The template of the settings is asked once for each function, for the expression that the function
returns. Everything else of the function is made without it.

* `Asks` : the call that the template is asked for, and the function around its answer. It is told
  by what comes out for every template.
* `Endpoint.callOf`, `Endpoint.outline` : the call, and the function before its body is written.
* `asks_iff` : the template is asked for the call of the outline.
* `Asks.eq_callOf` : what it is asked for, and the parameters of the function.
* `asks_of_emitFunction`, `Asks.doc` : the body of the function, and its documentation.
-/

set_option autoImplicit false

namespace TypedRequests.Request

open OpenApi TypeScript

/-- The function with another body. -/
def EmittedFunction.withBody (f : EmittedFunction) (body : String) : EmittedFunction :=
  { f with function := { f.function with body := body } }

/-- The template is asked for the call, and its answer is the body of the function. As this holds
whatever the template answers, there is only one such call. -/
def Asks (ctx : Context) (e : Endpoint) (names : Names) (call : CallInfo) (f : EmittedFunction) :
    Prop :=
  ∀ template : CallTemplate, (emitFunction { ctx with template := template } e names).1 =
    ((template call).mapError (.render .call)).map f.withBody

namespace Endpoint

/-- The call of a function, for the path of its requests. -/
def callOf (e : Endpoint) (path : String) (f : EmittedFunction) : CallInfo :=
  { url := e.urlExpression path
    method := e.method
    query := f.query.map fun _ => queryName
    body := f.bodyType.map fun _ => dataName
    response := f.responseType.text }

/-- The function of an endpoint before its body is written, with the path of its requests. -/
def outline (ctx : Context) (e : Endpoint) (names : Names) :
    Except GenerateError (String × EmittedFunction) := do
  let path ← e.requestPath ctx
  let name := names.functionName (Naming.functionName e.method path) e.routeNames
  let routeTypes ← e.routeTypes e.route
  let query ← (e.emitQuery name ⟨name :: names.taken, names.types⟩).1
  let bodyType ← e.emitBody
  let responseType ← e.emitResponse
  return (path, {
    function := ⟨name, e.functionDoc, e.parameters routeTypes query bodyType, ""⟩
    query := query
    bodyType := bodyType
    responseType := responseType
    routeTypes := routeTypes })

end Endpoint

variable {ctx : Context} {e : Endpoint} {names : Names} {call : CallInfo} {f : EmittedFunction}

/-- **A function is its outline with the answer of the template as its body.** -/
theorem fst_emitFunction_outline (ctx : Context) (e : Endpoint) (names : Names) :
    (emitFunction ctx e names).1 = e.outline ctx names >>= fun (path, f) =>
      ((ctx.template (e.callOf path f)).mapError (.render .call)).map f.withBody := by
  rw [fst_emitFunction, Endpoint.outline]
  simp only [bind_assoc]
  -- the last step is to finish the function, which writes its body
  rfl

/-- What the outline of a function is made of. -/
theorem outline_ok {path : String} (h : e.outline ctx names = .ok (path, f)) :
    e.requestPath ctx = .ok path ∧ f.withBody "" = f ∧ e.routeTypes e.route = .ok f.routeTypes ∧
      f.function.parameters = e.parameters f.routeTypes f.query f.bodyType ∧
      f.function.doc = e.functionDoc := by
  obtain ⟨path', hpath, h⟩ := bind_eq_ok.1 h
  obtain ⟨routeTypes, hroute, h⟩ := bind_eq_ok.1 h
  obtain ⟨query, -, h⟩ := bind_eq_ok.1 h
  obtain ⟨bodyType, -, h⟩ := bind_eq_ok.1 h
  obtain ⟨responseType, -, h⟩ := bind_eq_ok.1 h
  obtain ⟨rfl, rfl⟩ := Prod.mk.inj (Except.ok.inj h)
  exact ⟨hpath, rfl, hroute, rfl, rfl⟩

/-- **The template is asked for the call of the outline, and for nothing else.** -/
theorem asks_iff : Asks ctx e names call f ↔
    ∃ path, e.outline ctx names = .ok (path, f.withBody "") ∧
      call = e.callOf path (f.withBody "") := by
  -- the outline does not depend on the template
  have houtline : ∀ template : CallTemplate,
      e.outline { ctx with template := template } names = e.outline ctx names := fun _ => rfl
  constructor
  · intro h
    cases ho : e.outline ctx names with
    | error error =>
      have hok := h fun _ => .ok ""
      rw [fst_emitFunction_outline, houtline, ho] at hok
      cases hok
    | ok outline =>
      obtain ⟨path, g⟩ := outline
      obtain ⟨_, hbody, _⟩ := outline_ok ho
      have hok := h fun _ => .ok ""
      rw [fst_emitFunction_outline, houtline, ho] at hok
      have hg : g.withBody "" = f.withBody "" := Except.ok.inj hok
      rw [hbody] at hg
      subst hg
      refine ⟨path, rfl, ?_⟩
      -- a template that only refuses the call of the outline tells it from the others
      have hrefused := h fun c => if c = e.callOf path (f.withBody "") then .error "" else .ok ""
      rw [fst_emitFunction_outline, houtline, ho] at hrefused
      by_cases hcall : call = e.callOf path (f.withBody "")
      · exact hcall
      · simp only [bind, Except.bind, if_true, if_neg hcall] at hrefused
        cases hrefused
  · rintro ⟨path, ho, rfl⟩ template
    rw [fst_emitFunction_outline, houtline, ho]
    rfl

/-- The call of a function, and its parameters. -/
theorem Asks.eq_callOf (h : Asks ctx e names call f) :
    ∃ path, e.requestPath ctx = .ok path ∧ call = e.callOf path f ∧
      e.routeTypes e.route = .ok f.routeTypes ∧
      f.function.parameters = e.parameters f.routeTypes f.query f.bodyType := by
  obtain ⟨path, houtline, hcall⟩ := asks_iff.1 h
  obtain ⟨hpath, _, htypes, hparameters, _⟩ := outline_ok houtline
  exact ⟨path, hpath, hcall, htypes, hparameters⟩

theorem asks_of_outline {path : String} (h : e.outline ctx names = .ok (path, f)) :
    Asks ctx e names (e.callOf path f) f := by
  obtain ⟨_, hbody, _⟩ := outline_ok h
  exact asks_iff.2 ⟨path, by rw [hbody, h], by rw [hbody]⟩

/-- **The body of a function is what the template answers.** -/
theorem asks_of_emitFunction {names' : Names} (h : emitFunction ctx e names = (.ok f, names')) :
    ∃ call, Asks ctx e names call f ∧ ctx.template call = .ok f.function.body := by
  have hresult : (emitFunction ctx e names).1 = .ok f := congrArg Prod.fst h
  rw [fst_emitFunction_outline] at hresult
  obtain ⟨⟨path, g⟩, houtline, hanswer⟩ := bind_eq_ok.1 hresult
  obtain ⟨body, hbody, rfl⟩ := map_eq_ok.1 hanswer
  obtain ⟨_, hg, _⟩ := outline_ok houtline
  have hfunction : (g.withBody body).withBody "" = g := hg
  exact ⟨e.callOf path g, asks_iff.2 ⟨path, by rw [hfunction, houtline], by rw [hfunction]⟩,
    mapError_eq_ok.1 hbody⟩

/-- The template does not decide the documentation. -/
theorem Asks.doc (h : Asks ctx e names call f) : f.function.doc = e.functionDoc := by
  obtain ⟨_, houtline, _⟩ := asks_iff.1 h
  exact (outline_ok houtline).2.2.2.2

end TypedRequests.Request
