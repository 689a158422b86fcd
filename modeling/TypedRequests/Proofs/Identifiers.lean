import TypedRequests.Proofs.Addresses
import TypedRequests.Proofs.FunctionDocs

/-!
# Identifiers of parameters

Each route parameter has an identifier of its own, which the signature of the function, its
documentation and its address agree on.

* `LeastUnderscored`, `underscored_spec` : the search for a free identifier ends, with the fewest
  underscores that make it free.
* `Chosen`, `chosen_distinctIdentifiers` : identifiers are chosen one after the other.
* `Emitted.parameterNames` : the names in a signature.
* `Substitutes`, `Asks.substitutes` : the identifiers in an address.
* `identifiers_agree` : what this means for the function of an operation.
-/

set_option autoImplicit false

namespace TypedRequests

/-! ## Underscores -/

/-- The identifier with underscores behind it. -/
def withUnderscores (identifier : String) (count : Nat) : String :=
  identifier ++ String.ofList (List.replicate count '_')

theorem withUnderscores_zero (identifier : String) : withUnderscores identifier 0 = identifier :=
  String.append_empty

theorem withUnderscores_push (identifier : String) (count : Nat) :
    withUnderscores (identifier.push '_') count = withUnderscores identifier (count + 1) := by
  rw [← String.toList_inj]
  simp [withUnderscores, List.replicate_succ]

theorem withUnderscores_injective (identifier : String) :
    Function.Injective (withUnderscores identifier) := by
  intro m n h
  have hlength := congrArg (fun s => s.toList.length) h
  simpa [withUnderscores] using hlength

/-- The search stops at a number of underscores. With fewer the identifier is used, and unless the
search was given up it is not used with them. -/
theorem underscored_steps (used : List String) (identifier : String) (steps : Nat) :
    ∃ k, k ≤ steps ∧ underscored used identifier steps = withUnderscores identifier k ∧
      (∀ j, j < k → withUnderscores identifier j ∈ used) ∧
      (k < steps → withUnderscores identifier k ∉ used) := by
  induction steps generalizing identifier with
  | zero => exact ⟨0, Nat.le_refl 0, (withUnderscores_zero identifier).symm, nofun, nofun⟩
  | succ steps ih =>
    unfold underscored
    by_cases hused : identifier ∈ used
    · obtain ⟨k, hk, hname, hbefore, hstop⟩ := ih (identifier.push '_')
      simp only [withUnderscores_push] at hname hbefore hstop
      rw [if_pos (List.contains_iff_mem.2 hused)]
      refine ⟨k + 1, by omega, hname, fun j hj => ?_, fun hlt => hstop (by omega)⟩
      cases j with
      | zero => rwa [withUnderscores_zero]
      | succ j => exact hbefore j (by omega)
    · rw [if_neg (mt List.contains_iff_mem.1 hused)]
      refine ⟨0, by omega, (withUnderscores_zero identifier).symm, nofun, fun _ => ?_⟩
      rwa [withUnderscores_zero]

/-- The name is the identifier with the fewest underscores that make it unused. There are no more of
them than used names. -/
def LeastUnderscored (used : List String) (identifier name : String) : Prop :=
  ∃ k, k ≤ used.length ∧ name = withUnderscores identifier k ∧ name ∉ used ∧
    ∀ j, j < k → withUnderscores identifier j ∈ used

/-- **The search for a free identifier ends at the one with the fewest underscores.** -/
theorem underscored_spec (used : List String) (identifier : String) :
    LeastUnderscored used identifier (underscored used identifier used.length) := by
  obtain ⟨k, hk, hname, hbefore, hstop⟩ := underscored_steps used identifier used.length
  have hfree := free_of_search (withUnderscores_injective identifier) hk hbefore hstop
  exact ⟨k, hk, hname, hname ▸ hfree, hbefore⟩

/-! ## Chosen identifiers -/

/-- The names are chosen for the identifiers in order, each with the fewest underscores that make it
differ from the used names and from those before it. -/
inductive Chosen : List String → List String → List String → Prop where
  | nil {used : List String} : Chosen used [] []
  | cons {used identifiers names : List String} {identifier name : String}
      (h : LeastUnderscored used identifier name) (hs : Chosen (name :: used) identifiers names) :
      Chosen used (identifier :: identifiers) (name :: names)

theorem chosen_distinctIdentifiers (used identifiers : List String) :
    Chosen used identifiers (distinctIdentifiers used identifiers) := by
  induction identifiers generalizing used with
  | nil => exact .nil
  | cons identifier identifiers ih => exact .cons (underscored_spec used identifier) (ih _)

/-- An underscore may be what another identifier already ends with. -/
example : distinctIdentifiers ["query"] ["query_", "query", "query_"] =
    ["query_", "query__", "query___"] := by
  decide +kernel

namespace Chosen

variable {used identifiers names : List String}

/-- **Chosen names differ from each other and from the used ones.** -/
theorem nodup_append (h : Chosen used identifiers names) (hused : used.Nodup) :
    (names ++ used).Nodup := by
  induction h with
  | nil => exact hused
  | cons h _ ih =>
    obtain ⟨_, _, _, hfree, _⟩ := h
    rw [List.cons_append, ← List.perm_middle.nodup_iff]
    exact ih (List.nodup_cons.2 ⟨hfree, hused⟩)

/-- **Only underscores are added.** -/
theorem underscores (h : Chosen used identifiers names) :
    List.Forall₂ (fun identifier name => ∃ k, name = withUnderscores identifier k)
      identifiers names := by
  induction h with
  | nil => exact .nil
  | cons h _ ih =>
    obtain ⟨k, _, hname, _⟩ := h
    exact .cons ⟨k, hname⟩ ih

end Chosen

namespace Request

open OpenApi TypeScript PathTemplate

variable {ctx : Context} {e : Endpoint} {names names' : Names} {call : CallInfo}
  {f : EmittedFunction}

/-! ## Signatures -/

theorem Endpoint.nodup_fixedNames (e : Endpoint) : e.fixedNames.Nodup := by
  unfold fixedNames
  cases e.query.isEmpty <;> cases e.body.isNone <;> decide

theorem Endpoint.isNone_of_emitBody {bodyType : Option TypeExpr} (h : e.emitBody = .ok bodyType) :
    bodyType.isNone = e.body.isNone := by
  unfold emitBody at h
  split at h
  · rename_i hbody
    rw [hbody]
    cases h
    rfl
  · rename_i hbody
    obtain ⟨_, _, rfl⟩ := map_eq_ok.1 h
    rw [hbody]
    rfl

/-- **The parameters of a function** are those of the route, then the query and the body, if the
endpoint has them. -/
theorem Emitted.parameterNames (h : Emitted ctx e names f names') :
    f.parameterNames = e.routeIdentifiers ++ e.fixedNames := by
  have hquery : f.query.isNone = e.query.isEmpty := by
    rw [← Option.isNone_map (f := Prod.fst), h.queryName]
    cases e.query.isEmpty <;> rfl
  have hbody := Endpoint.isNone_of_emitBody h.bodyType
  rw [EmittedFunction.parameterNames, h.parameters, Endpoint.map_name_parameters h.routeTypes,
    Endpoint.fixedNames, ← hquery, ← hbody, List.append_assoc]
  cases f.query <;> cases f.bodyType <;> rfl

/-- **The names in a signature all differ.** -/
theorem Emitted.nodup_parameterNames (h : Emitted ctx e names f names') :
    f.parameterNames.Nodup := by
  rw [h.parameterNames]
  exact (chosen_distinctIdentifiers _ _).nodup_append e.nodup_fixedNames

/-! ## Addresses -/

/-- The address is a template literal for the path, in which the first of each pair, as the name of
a placeholder, is replaced by the second. It is read so if the path opens no substitution behind its
last placeholder. -/
def Substitutes (pairs : List (String × String)) (path url : String) : Prop :=
  ∃ expression : String → String, (∀ p ∈ pairs, expression p.1 = p.2) ∧
    url = (ofPath path).urlTemplate expression ∧
    (NoOpening (ofPath path).last → ∃ t, readTemplate? url.toList = some (t, []) ∧
      t.placeholders = (ofPath path).placeholders.map expression)

/-- If the route parameters have different names, each is replaced by its own identifier. -/
theorem Endpoint.placeholderIdentifier_of_mem_zip (hnodup : e.routeNames.Nodup)
    {p : String × String} (hp : p ∈ e.routeNames.zip e.routeIdentifiers) :
    e.placeholderIdentifier p.1 = p.2 := by
  have hmem := mem_zip_placeholderIdentifier (List.of_mem_zip hp).1
  have hkeys : ((e.routeNames.zip e.routeIdentifiers).map Prod.fst).Nodup := by
    rwa [List.map_fst_zip (Nat.le_of_eq e.length_routeNames)]
  exact congrArg Prod.snd (List.inj_on_of_nodup_map hkeys hmem hp rfl)

/-- **The placeholders of an address are replaced by the identifiers of the route parameters.** -/
theorem Asks.substitutes {path : String} (h : Asks ctx e names call f) (hroute : e.route ≠ [])
    (hnodup : e.routeNames.Nodup) (hpath : e.requestPath ctx = .ok path) :
    Substitutes (e.routeNames.zip e.routeIdentifiers) path call.url :=
  ⟨e.placeholderIdentifier, fun _ hp => Endpoint.placeholderIdentifier_of_mem_zip hnodup hp,
    h.url_of_route hroute hpath, fun hlast => (h.readTemplate?_url hroute hpath hlast).2⟩

/-! ## Functions of extracted operations -/

/-- The settings with which a function returns its address. -/
def addressContext : Context :=
  .ofTemplate fun call => .ok call.url

/-- An operation of the document has a function that is as wanted. -/
def anyFunction (d : Document) (ctx : Context) (wanted : Endpoint → EmittedFunction → Bool) :
    Bool :=
  (extract d ctx).result.toOption.any fun modules => modules.any fun m => m.endpoints.any fun e =>
    (emitFunction ctx e (.ofModelTypes [])).1.toOption.any (wanted e)

theorem exists_function {d : Document} {wanted : Endpoint → EmittedFunction → Bool}
    (h : anyFunction d ctx wanted = true) :
    ∃ modules, (extract d ctx).result = .ok modules ∧ ∃ m ∈ modules, ∃ e ∈ m.endpoints,
      ∃ f names', emitFunction ctx e (.ofModelTypes []) = (.ok f, names') ∧ wanted e f = true := by
  obtain ⟨modules, hmodules, h⟩ := (Option.any_eq_true _ _).1 h
  obtain ⟨m, hm, h⟩ := List.any_eq_true.1 h
  obtain ⟨e, he, h⟩ := List.any_eq_true.1 h
  obtain ⟨f, hf, h⟩ := (Option.any_eq_true _ _).1 h
  exact ⟨modules, eq_ok_of_toOption hmodules, m, hm, e, he, f, _,
    Prod.ext (eq_ok_of_toOption hf) rfl, h⟩

/-- **A function has one identifier for each route parameter wherever it speaks of it.** The
identifiers are chosen one after the other: each is the name of the parameter as a variable name,
with the fewest underscores that make it differ from the names of the query and the body, if there
are any, and from the identifiers before it. With the names of the query and the body behind them
they are the names in the signature, which all differ. The documentation is the summary, if there is
anything in it, with one entry for each identifier; read line by line, it is about the identifiers
in their order. And if there are route parameters, whose names differ, a placeholder of the path of
the requests that has the name of one is replaced in the address by its identifier. -/
theorem identifiers_agree {d : Document} {ctx₀ : Context} {modules : List TagModule}
    (hmodules : (extract d ctx₀).result = .ok modules) {m : TagModule} (hm : m ∈ modules)
    (he : e ∈ m.endpoints) (h : emitFunction ctx e names = (.ok f, names')) :
    Chosen e.fixedNames (e.routeNames.map Naming.sanitized) e.routeIdentifiers ∧
    List.Forall₂ (fun name identifier => ∃ k, identifier =
      withUnderscores (Naming.sanitized name) k) e.routeNames e.routeIdentifiers ∧
    f.parameterNames = e.routeIdentifiers ++ e.fixedNames ∧ f.parameterNames.Nodup ∧
    Documents e e.routeIdentifiers f.function.doc ∧
    (SingleLines e → f.function.doc.elim [] taggedNames = e.routeIdentifiers) ∧
    e.routeNames.Nodup ∧
    ∃ path call, e.requestPath ctx = .ok path ∧ Asks ctx e names call f ∧
      ctx.template call = .ok f.function.body ∧
      (e.route ≠ [] → Substitutes (e.routeNames.zip e.routeIdentifiers) path call.url) := by
  obtain ⟨p, _, rfl⟩ := exists_operation_of_extract hmodules hm he
  obtain ⟨call, hasks, hbody⟩ := asks_of_emitFunction h
  obtain ⟨path, hpath, -⟩ := hasks.eq_callOf
  have hemitted := emitFunction_ok h
  have hchosen := chosen_distinctIdentifiers (p.endpoint d).fixedNames
    ((p.endpoint d).routeNames.map Naming.sanitized)
  have hdoc : Documents (p.endpoint d) (p.endpoint d).routeIdentifiers f.function.doc :=
    hasks.doc ▸ Endpoint.documents_functionDoc _
  have hroute : (p.endpoint d).routeNames.Nodup := Endpoint.nodup_routeNames ..
  exact ⟨hchosen, List.forall₂_map_left_iff.1 hchosen.underscores, hemitted.parameterNames,
    hemitted.nodup_parameterNames, hdoc,
    fun hsingle => hdoc.taggedNames_eq hsingle (Endpoint.isName_of_mem_routeIdentifiers _)
      (Endpoint.length_routeIdentifiers _),
    hroute, path, call, hpath, hasks, hbody, fun hne => hasks.substitutes hne hroute hpath⟩

/-- A document with one operation, whose parameters have names that clash as variable names. -/
def clashingDocument : Document :=
  { Document.empty with
    paths := .ofPairs [("/pets/\x7bquery\x7d/\x7bpet-id\x7d/\x7bpetId\x7d",
      ⟨.ofPairs [(.get, ⟨["pets"], some " A pet", none,
        [.inline ⟨"limit", .query, none, false, none⟩,
          .inline ⟨"pet-id", .path, some "its number ", true, none⟩], none, .empty⟩)], []⟩)] }

/-- Underscores keep the parameters apart, and the address and the documentation go along. -/
theorem identifiers_agree_clashing :
    ∃ modules, (extract clashingDocument addressContext).result = .ok modules ∧
      ∃ m ∈ modules, ∃ e ∈ m.endpoints, ∃ f names',
        emitFunction addressContext e (.ofModelTypes []) = (.ok f, names') ∧
        f.parameterNames = ["petId", "query_", "petId_", "query"] ∧ f.parameterNames.Nodup ∧
        f.function.doc =
          some "A pet\n@param petId its number\n@param query_\n@param petId_" ∧
        SingleLines e ∧ f.function.doc.elim [] taggedNames = ["petId", "query_", "petId_"] ∧
        ∃ path, ∃ call : CallInfo, e.requestPath addressContext = .ok path ∧
          call.url = "\x60/pets/$\x7bquery_\x7d/$\x7bpetId\x7d/$\x7bpetId_\x7d\x60" ∧
          Substitutes [("pet-id", "petId"), ("query", "query_"), ("petId", "petId_")] path
            call.url := by
  have hfunction : anyFunction clashingDocument addressContext (fun e f =>
      e.routeNames.zip e.routeIdentifiers ==
          [("pet-id", "petId"), ("query", "query_"), ("petId", "petId_")] &&
        e.routeIdentifiers == ["petId", "query_", "petId_"] && decide (SingleLines e) &&
        f.parameterNames == ["petId", "query_", "petId_", "query"] &&
        f.function.doc ==
          some "A pet\n@param petId its number\n@param query_\n@param petId_" &&
        f.function.body ==
          "\x60/pets/$\x7bquery_\x7d/$\x7bpetId\x7d/$\x7bpetId_\x7d\x60") = true := by
    decide +kernel
  obtain ⟨modules, hmodules, m, hm, e, he, f, names', h, hwanted⟩ := exists_function hfunction
  simp only [Bool.and_eq_true, beq_iff_eq, decide_eq_true_eq] at hwanted
  obtain ⟨⟨⟨⟨⟨hpairs, hidentifiers⟩, hsingle⟩, hparameters⟩, hdoc⟩, hbody⟩ := hwanted
  obtain ⟨-, -, -, hnodup, -, htagged, -, path, call, hpath, -, hcall, hsubstitutes⟩ :=
    identifiers_agree hmodules hm he h
  have hroute : e.route ≠ [] := by
    intro hroute
    rw [Endpoint.routeNames, hroute] at hpairs
    cases hpairs
  refine ⟨modules, hmodules, m, hm, e, he, f, names', h, hparameters, hnodup, hdoc, hsingle,
    hidentifiers ▸ htagged hsingle, path, call, hpath, ?_, hpairs ▸ hsubstitutes hroute⟩
  rw [← hbody]
  exact Except.ok.inj hcall

end Request

end TypedRequests
