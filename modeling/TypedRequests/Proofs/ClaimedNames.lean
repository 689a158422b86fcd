import TypedRequests.Proofs.Emission

/-!
# Claimed names

An endpoint claims a name for its function and, if it comes to that, one for its query type. They
stay taken whatever becomes of it.

* `Names.functionName_of_subset`, `Names.typeName_of_subset` : further taken names matter only if
  they are the answer.
* `Endpoint.claimedFunction`, `Endpoint.claimedType`, `snd_emitFunction` : what an endpoint claims.
* `fst_emitFunction_congr` : what it gives depends on the taken names only through its claims.
* `namesAfter`, `emitFunctions_append` : endpoints one after the other.
* `emitFunctions_of_names`, `emitFunctions_of_same_names` : further taken names that no endpoint
  claims change nothing, and neither does the order of taken names.
-/

set_option autoImplicit false

namespace TypedRequests

/-! ## Answers with further names taken -/

theorem numbered_eq {taken : List String} {stem : String} {n : Nat} (hn : 2 ≤ n)
    (hfree : stem ++ toString n ∉ taken)
    (hbefore : ∀ k, 2 ≤ k → k < n → stem ++ toString k ∈ taken) :
    numbered taken stem = stem ++ toString n := by
  obtain ⟨k, hk, _, hname, hkfree, hkbefore⟩ := numbered_spec taken stem
  rw [hname] at hkfree
  -- of two least free numbers none is less than the other
  rcases Nat.lt_trichotomy k n with hlt | rfl | hlt
  · exact absurd (hbefore k hk hlt) hkfree
  · exact hname
  · exact absurd (hkbefore n hn hlt) hfree

theorem numbered_of_subset {taken taken' : List String} {stem : String} (h : taken ⊆ taken')
    (hnew : numbered taken stem ∉ taken') : numbered taken' stem = numbered taken stem := by
  obtain ⟨n, hn, _, hname, _, hbefore⟩ := numbered_spec taken stem
  rw [hname] at hnew ⊢
  exact numbered_eq hn hnew fun k hk hkn => h (hbefore k hk hkn)

namespace Names

variable {names names' : Names} {base : String} {routeNames : List String}

/-- **Further taken names change the name of a function only if they are that name.** -/
theorem functionName_of_subset (h : names.taken ⊆ names'.taken)
    (hnew : names.functionName base routeNames ∉ names'.taken) :
    names'.functionName base routeNames = names.functionName base routeNames := by
  unfold functionName at hnew ⊢
  simp only [List.contains_iff_mem] at hnew ⊢
  by_cases hbase : base ∈ names.taken
  · rw [if_pos hbase] at hnew ⊢
    rw [if_pos (h hbase)]
    by_cases hroute : routeNames.isEmpty = true
    · rw [if_pos hroute] at hnew ⊢
      rw [if_pos hroute]
      exact numbered_of_subset h hnew
    · rw [if_neg hroute] at hnew ⊢
      rw [if_neg hroute]
      by_cases hby : byParameters base routeNames ∈ names.taken
      · rw [if_pos hby] at hnew ⊢
        rw [if_pos (h hby)]
        exact numbered_of_subset h hnew
      · rw [if_neg hby] at hnew ⊢
        rw [if_neg hnew]
  · rw [if_neg hbase] at hnew ⊢
    rw [if_neg hnew]

/-- **Further taken names change the name of a type only if they are that name.** -/
theorem typeName_of_subset (h : names.types ⊆ names'.types)
    (hnew : names.typeName base ∉ names'.types) : names'.typeName base = names.typeName base := by
  unfold typeName at hnew ⊢
  simp only [List.contains_iff_mem] at hnew ⊢
  by_cases hbase : base ∈ names.types
  · rw [if_pos hbase] at hnew ⊢
    rw [if_pos (h hbase)]
    exact numbered_of_subset h hnew
  · rw [if_neg hbase] at hnew ⊢
    rw [if_neg hnew]

/-- The second names are those of the first, and the given ones. -/
structure With (functions types : List String) (names names' : Names) : Prop where
  taken : ∀ n, n ∈ names'.taken ↔ n ∈ functions ∨ n ∈ names.taken
  types : ∀ n, n ∈ names'.types ↔ n ∈ types ∨ n ∈ names.types

end Names

namespace Request

open OpenApi TypeScript

/-! ## Claimed names -/

namespace Endpoint

/-- The function name that an endpoint claims, if its path can be rendered. -/
def claimedFunction (e : Endpoint) (ctx : Context) (names : Names) : Option String :=
  (e.requestPath ctx).toOption.map fun path =>
    names.functionName (Naming.functionName e.method path) e.routeNames

/-- The name that an endpoint claims for its query type, if it has one and the route parameters have
types. -/
def claimedType (e : Endpoint) (ctx : Context) (names : Names) : Option String :=
  match e.claimedFunction ctx names, e.routeTypes e.route with
  | some name, .ok _ =>
    if e.query.isEmpty then none else some (names.typeName (Naming.queryTypeName name))
  | _, _ => none

variable {ctx : Context} {e : Endpoint} {names names' : Names}

theorem claimedFunction_not_mem {name : String} (h : e.claimedFunction ctx names = some name) :
    name ∉ names.taken := by
  obtain ⟨path, _, rfl⟩ := Option.map_eq_some_iff.1 h
  exact (names.functionName_spec _ _).not_mem

theorem claimedType_not_mem {q : String} (h : e.claimedType ctx names = some q) :
    q ∉ names.types := by
  unfold claimedType at h
  split at h
  · split at h
    · cases h
    · cases h
      exact (names.typeName_spec _).not_mem
  · cases h

/-- Further taken names change the claims of an endpoint only if it claims one of them. -/
theorem claimed_of_with {functions types : List String} (h : names.With functions types names')
    (hf : ∀ name ∈ e.claimedFunction ctx names, name ∉ functions)
    (ht : ∀ q ∈ e.claimedType ctx names, q ∉ types) :
    e.claimedFunction ctx names' = e.claimedFunction ctx names ∧
      e.claimedType ctx names' = e.claimedType ctx names := by
  have hfunction : e.claimedFunction ctx names' = e.claimedFunction ctx names := by
    unfold claimedFunction at hf ⊢
    cases hpath : (e.requestPath ctx).toOption with
    | none => rfl
    | some path =>
      rw [hpath] at hf
      have hname := hf _ rfl
      refine congrArg some (Names.functionName_of_subset (fun n hn => (h.taken n).2 (Or.inr hn)) ?_)
      rw [h.taken]
      exact not_or.2 ⟨hname, (names.functionName_spec _ _).not_mem⟩
  refine ⟨hfunction, ?_⟩
  unfold claimedType at ht ⊢
  rw [hfunction]
  split
  · rename_i hname htypes
    rw [hname, htypes] at ht
    simp only at ht
    split
    · rfl
    · rename_i hquery
      rw [if_neg hquery] at ht
      refine congrArg some (Names.typeName_of_subset (fun n hn => (h.types n).2 (Or.inr hn)) ?_)
      rw [h.types]
      exact not_or.2 ⟨ht _ rfl, (names.typeName_spec _).not_mem⟩
  · rfl

end Endpoint

variable {ctx : Context} {e : Endpoint} {names names' : Names}

/-- **An endpoint takes the names that it claims, whatever becomes of it.** -/
theorem snd_emitFunction (ctx : Context) (e : Endpoint) (names : Names) :
    (emitFunction ctx e names).2 =
      ⟨(e.claimedFunction ctx names).toList ++ names.taken,
        (e.claimedType ctx names).toList ++ names.types⟩ := by
  unfold emitFunction Endpoint.claimedType Endpoint.claimedFunction
  cases e.requestPath ctx with
  | error error => rfl
  | ok path =>
    simp only [Names.claim, Except.toOption, Option.map_some]
    cases e.routeTypes e.route with
    | error error => rfl
    | ok routeTypes =>
      simp only [Endpoint.emitQuery]
      by_cases hquery : e.query.isEmpty = true
      · rw [if_pos hquery, if_pos hquery]
        rfl
      · rw [if_neg hquery, if_neg hquery]
        simp only [Names.claimType]
        generalize declare _ _ = declared
        cases declared <;> rfl

/-- A query type depends on the taken names only through its own. -/
theorem fst_emitQuery_congr {function : String}
    (h : e.query.isEmpty = false → names'.typeName (Naming.queryTypeName function) =
      names.typeName (Naming.queryTypeName function)) :
    (e.emitQuery function names').1 = (e.emitQuery function names).1 := by
  unfold Endpoint.emitQuery
  cases hquery : e.query.isEmpty with
  | true => rfl
  | false =>
    simp only [Names.claimType, h hquery]
    rfl

/-- **What an endpoint gives depends on the taken names only through the claimed ones.** -/
theorem fst_emitFunction_congr
    (hf : e.claimedFunction ctx names' = e.claimedFunction ctx names)
    (ht : e.claimedType ctx names' = e.claimedType ctx names) :
    (emitFunction ctx e names').1 = (emitFunction ctx e names).1 := by
  rw [fst_emitFunction, fst_emitFunction]
  unfold Endpoint.claimedType at ht
  rw [hf] at ht
  unfold Endpoint.claimedFunction at hf ht
  cases hpath : e.requestPath ctx with
  | error error => simp only [bind, Except.bind]
  | ok path =>
    rw [hpath] at hf ht
    have hname : names'.functionName (Naming.functionName e.method path) e.routeNames =
        names.functionName (Naming.functionName e.method path) e.routeNames := Option.some.inj hf
    simp only [bind, Except.bind, hname]
    cases hroute : e.routeTypes e.route with
    | error error => rfl
    | ok routeTypes =>
      rw [hroute] at ht
      simp only [Except.toOption, Option.map_some] at ht ⊢
      rw [fst_emitQuery_congr]
      intro hquery
      rw [hquery] at ht
      exact Option.some.inj ht

/-! ## Runs with further names taken -/

/-- The names that are taken after endpoints, one after the other. -/
def namesAfter (ctx : Context) (names : Names) (es : List Endpoint) : Names :=
  es.foldl (fun names e => (emitFunction ctx e names).2) names

theorem namesAfter_extends (ctx : Context) (names : Names) (es : List Endpoint) :
    names.taken ⊆ (namesAfter ctx names es).taken ∧
      names.types ⊆ (namesAfter ctx names es).types := by
  induction es generalizing names with
  | nil => exact ⟨List.Subset.refl _, List.Subset.refl _⟩
  | cons e es ih =>
    obtain ⟨htaken, htypes⟩ := emitFunction_extends ctx e names
    obtain ⟨ihtaken, ihtypes⟩ := ih (emitFunction ctx e names).2
    exact ⟨fun _ h => ihtaken (htaken h), fun _ h => ihtypes (htypes h)⟩

/-- The result for the endpoints of a module, from that for its first one. -/
theorem emitFunctions_cons (ctx : Context) (tag : String) (names : Names) (e : Endpoint)
    (es : List Endpoint) :
    (emitFunctions ctx tag names (e :: es)).result =
      match (emitFunction ctx e names).1 with
      | .ok f => (emitFunctions ctx tag (emitFunction ctx e names).2 es).result.map (f :: ·)
      | .error (.schema _ _) => (emitFunctions ctx tag (emitFunction ctx e names).2 es).result
      | .error error => .error error := by
  rw [emitFunctions]
  generalize emitFunction ctx e names = emitted
  obtain ⟨result, names'⟩ := emitted
  cases result with
  | ok f => rfl
  | error error => cases error <;> rfl

theorem emitFunctions_append (ctx : Context) (tag : String) (names : Names)
    (es es' : List Endpoint) :
    (emitFunctions ctx tag names (es ++ es')).result = (do
      let fs ← (emitFunctions ctx tag names es).result
      let fs' ← (emitFunctions ctx tag (namesAfter ctx names es) es').result
      return fs ++ fs') := by
  induction es generalizing names with
  | nil =>
    simp only [List.nil_append, namesAfter, List.foldl_nil]
    cases (emitFunctions ctx tag names es').result <;> rfl
  | cons e es ih =>
    rw [List.cons_append, emitFunctions_cons, emitFunctions_cons, ih]
    simp only [namesAfter, List.foldl_cons]
    cases (emitFunction ctx e names).1 with
    | ok f =>
      simp only
      cases (emitFunctions ctx tag (emitFunction ctx e names).2 es).result with
      | error error => rfl
      | ok fs =>
        simp only [bind, Except.bind, Except.map]
        generalize (emitFunctions ctx tag _ es').result = rest
        cases rest <;> rfl
    | error error => cases error <;> rfl

/-- **Further taken names that no endpoint claims change nothing.** -/
theorem emitFunctions_of_names (tag : String) {functions types : List String} {es : List Endpoint}
    (h : names.With functions types names')
    (hf : ∀ name ∈ functions, name ∉ (namesAfter ctx names es).taken)
    (ht : ∀ q ∈ types, q ∉ (namesAfter ctx names es).types) :
    emitFunctions ctx tag names' es = emitFunctions ctx tag names es := by
  induction es generalizing names names' with
  | nil => rfl
  | cons e es ih =>
    have hnext : namesAfter ctx names (e :: es) =
        namesAfter ctx (emitFunction ctx e names).2 es := rfl
    rw [hnext] at hf ht
    obtain ⟨htaken, htypes⟩ := namesAfter_extends ctx (emitFunction ctx e names).2 es
    -- what the endpoint claims stays taken, and so it is none of the further names
    have hclaimed : ∀ name ∈ e.claimedFunction ctx names, name ∉ functions := by
      refine fun name hname hm => hf name hm (htaken ?_)
      rw [snd_emitFunction]
      exact List.mem_append_left _ (Option.mem_toList.2 hname)
    have hclaimedType : ∀ q ∈ e.claimedType ctx names, q ∉ types := by
      refine fun q hq hm => ht q hm (htypes ?_)
      rw [snd_emitFunction]
      exact List.mem_append_left _ (Option.mem_toList.2 hq)
    obtain ⟨hfunction, htype⟩ := Endpoint.claimed_of_with h hclaimed hclaimedType
    have hwith :
        (emitFunction ctx e names).2.With functions types (emitFunction ctx e names').2 := by
      rw [snd_emitFunction, snd_emitFunction, hfunction, htype]
      refine ⟨fun n => ?_, fun n => ?_⟩
      · simp only [List.mem_append, h.taken, or_left_comm]
      · simp only [List.mem_append, h.types, or_left_comm]
    have hsame := fst_emitFunction_congr hfunction htype
    have hrest := ih hwith hf ht
    unfold emitFunctions
    generalize emitFunction ctx e names = emitted at hsame hrest
    generalize emitFunction ctx e names' = emitted' at hsame hrest
    obtain ⟨result, next⟩ := emitted
    obtain ⟨result', next'⟩ := emitted'
    simp only at hsame hrest
    subst hsame
    cases result' with
    | ok f => simp only [hrest]
    | error error =>
      cases error with
      | schema location e => simp only [hrest]
      | _ => rfl

/-- Names that are taken in another order, or more than once, change nothing. -/
theorem emitFunctions_of_same_names (tag : String) (es : List Endpoint)
    (h : names.With [] [] names') :
    emitFunctions ctx tag names' es = emitFunctions ctx tag names es :=
  emitFunctions_of_names tag h nofun nofun

end Request

end TypedRequests
