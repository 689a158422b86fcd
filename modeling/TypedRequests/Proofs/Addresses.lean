import TypedRequests.Proofs.Extraction
import TypedRequests.Proofs.LiteralValues
import TypedRequests.Proofs.MergedParameters
import TypedRequests.Proofs.Resolution
import TypedRequests.Proofs.TemplateLiterals

/-!
# Names in addresses

The address of a function is a literal in which only identifiers are substituted. Those of the route
parameters are parameters of the function. The settings may change the path of the requests, and
with it the placeholders of the address, but not the route parameters.

* `Naming.isName_sanitized`, `isName_of_mem_distinctIdentifiers` : variable names are names.
* `Endpoint.mem_zip_placeholderIdentifier`, `Endpoint.placeholderIdentifier_of_not_mem` : what is
  substituted for a placeholder.
* `Asks.parameterNames` : the parameters of a function.
* `Endpoint.placeholders_subset` : the placeholders of the document are route parameters.
* `ClosedIn` : a literal in which only given names are substituted.
* `address_closed_iff` : when the address of a function is closed in its parameters.
-/

set_option autoImplicit false

namespace TypedRequests

open TypeScript

/-! ## Variable names -/

namespace TypeScript

theorem isNameChar_of_isIdentifierPart {c : Char} (h : isIdentifierPart c = true) :
    isNameChar c = true := by
  simp only [isIdentifierPart, Bool.or_eq_true] at h
  simp only [isNameChar, Text.isWordChar, Bool.or_eq_true]
  tauto

theorem isName_of_isIdentifier {s : String} (h : isIdentifier s = true) : IsName s := by
  refine ⟨?_, fun c hc => isNameChar_of_isIdentifierPart (forall_part_of_isIdentifier h c hc)⟩
  rintro rfl
  exact absurd h (by decide)

theorem isName_underscore_append {s : String} (h : ∀ c ∈ s.toList, isNameChar c = true) :
    IsName ("_" ++ s) := by
  have hchars : ("_" ++ s).toList = '_' :: s.toList := by simp
  refine ⟨fun he => ?_, fun c hc => ?_⟩
  · rw [he] at hchars
    cases hchars
  · rw [hchars] at hc
    rcases List.mem_cons.1 hc with rfl | hc
    · rfl
    · exact h c hc

theorem IsName.push_underscore {s : String} (h : IsName s) : IsName (s.push '_') := by
  have hchars : (s.push '_').toList = s.toList ++ ['_'] := String.toList_push '_'
  refine ⟨fun he => ?_, fun c hc => ?_⟩
  · rw [he] at hchars
    exact absurd hchars.symm (by simp)
  · rw [hchars] at hc
    rcases List.mem_append.1 hc with hc | hc
    · exact h.2 c hc
    · obtain rfl := List.mem_singleton.1 hc
      rfl

end TypeScript

/-- **A variable name is a name**, whatever name it is made from. -/
theorem Naming.isName_sanitized (name : String) : IsName (sanitized name) := by
  have hform : identifierForm name = "" ∨ IsName (identifierForm name) := by
    unfold identifierForm
    split
    · rename_i h
      exact Or.inr (isName_of_isIdentifier h)
    · by_cases hempty : Text.lowerCamel name = ""
      · exact Or.inl hempty
      · refine Or.inr ⟨hempty, fun c hc => ?_⟩
        simp [isNameChar, Text.isWordChar_of_mem_lowerCamel hc]
  have hdigit : IsName (identifierForm name) → IsName (guardDigit (identifierForm name)) := by
    intro h
    unfold guardDigit
    split
    · exact isName_underscore_append h.2
    · exact h
  unfold sanitized
  rcases hform with h | h
  · rw [if_pos h]
    exact isName_of_isIdentifier (by decide)
  · rw [if_neg h.1]
    unfold guardReserved
    split
    · exact isName_underscore_append (hdigit h).2
    · exact hdigit h

theorem isName_underscored (used : List String) {identifier : String} (h : IsName identifier)
    (steps : Nat) : IsName (underscored used identifier steps) := by
  induction steps generalizing identifier with
  | zero => exact h
  | succ steps ih =>
    unfold underscored
    split
    · exact ih h.push_underscore
    · exact h

theorem isName_of_mem_distinctIdentifiers {used identifiers : List String}
    (h : ∀ i ∈ identifiers, IsName i) : ∀ i ∈ distinctIdentifiers used identifiers, IsName i := by
  induction identifiers generalizing used with
  | nil => nofun
  | cons identifier rest ih =>
    obtain ⟨hfirst, hrest⟩ := List.forall_mem_cons.1 h
    exact List.forall_mem_cons.2 ⟨isName_underscored used hfirst _, ih hrest⟩

namespace Request

open OpenApi PathTemplate

/-! ## Placeholders -/

theorem lookup_zip_of_mem {keys values : List String} {key : String}
    (hlength : keys.length = values.length) (h : key ∈ keys) :
    ∃ value, (keys.zip values).lookup key = some value ∧ (key, value) ∈ keys.zip values := by
  cases hlookup : (keys.zip values).lookup key with
  | some value =>
    obtain ⟨before, after, hzip, _⟩ := List.lookup_eq_some_iff.1 hlookup
    refine ⟨value, rfl, ?_⟩
    rw [hzip]
    exact List.mem_append_right _ (List.mem_cons_self ..)
  | none =>
    have hkeys : (keys.zip values).map Prod.fst = keys := List.map_fst_zip (Nat.le_of_eq hlength)
    rw [← hkeys] at h
    obtain ⟨p, hp, rfl⟩ := List.mem_map.1 h
    exact absurd (List.lookup_eq_none_iff.1 hlookup p hp) (by simp)

theorem lookup_zip_of_not_mem {keys values : List String} {key : String} (h : key ∉ keys) :
    (keys.zip values).lookup key = none := by
  refine List.lookup_eq_none_iff.2 fun p hp => ?_
  have hne : key ≠ p.1 := fun he => h (he ▸ (List.of_mem_zip hp).1)
  simpa using hne

namespace Endpoint

variable {e : Endpoint} {placeholder : String}

theorem length_routeIdentifiers (e : Endpoint) : e.routeIdentifiers.length = e.route.length := by
  rw [routeIdentifiers, length_distinctIdentifiers, List.length_map, routeNames, List.length_map]

theorem length_routeNames (e : Endpoint) : e.routeNames.length = e.routeIdentifiers.length := by
  rw [length_routeIdentifiers, routeNames, List.length_map]

theorem isName_of_mem_routeIdentifiers (e : Endpoint) : ∀ i ∈ e.routeIdentifiers, IsName i := by
  refine isName_of_mem_distinctIdentifiers fun i hi => ?_
  obtain ⟨name, _, rfl⟩ := List.mem_map.1 hi
  exact Naming.isName_sanitized name

/-- **A route parameter stands for the placeholder of its name.** -/
theorem mem_zip_placeholderIdentifier (h : placeholder ∈ e.routeNames) :
    (placeholder, e.placeholderIdentifier placeholder) ∈ e.routeNames.zip e.routeIdentifiers := by
  obtain ⟨identifier, hlookup, hmem⟩ := lookup_zip_of_mem e.length_routeNames h
  rw [placeholderIdentifier, hlookup]
  exact hmem

theorem placeholderIdentifier_mem (h : placeholder ∈ e.routeNames) :
    e.placeholderIdentifier placeholder ∈ e.routeIdentifiers :=
  (List.of_mem_zip (mem_zip_placeholderIdentifier h)).2

/-- For another placeholder its own name stands, as a variable name. -/
theorem placeholderIdentifier_of_not_mem (h : placeholder ∉ e.routeNames) :
    e.placeholderIdentifier placeholder = Naming.sanitized placeholder := by
  rw [placeholderIdentifier, lookup_zip_of_not_mem h, Option.getD_none]

theorem isName_placeholderIdentifier (e : Endpoint) (placeholder : String) :
    IsName (e.placeholderIdentifier placeholder) := by
  by_cases h : placeholder ∈ e.routeNames
  · exact e.isName_of_mem_routeIdentifiers _ (placeholderIdentifier_mem h)
  · rw [placeholderIdentifier_of_not_mem h]
    exact Naming.isName_sanitized placeholder

end Endpoint

/-- **The placeholders of a path of the document are route parameters.** -/
theorem PlacedOperation.placeholders_subset (d : Document) (p : PlacedOperation) :
    (ofPath (p.endpoint d).path).placeholders ⊆ (p.endpoint d).routeNames :=
  (mergedFrom_ofOperation d p.path p.method p.item p.operation).placeholders_subset

/-! ## Parameters -/

/-- The names that a function declares for its parameters. -/
def EmittedFunction.parameterNames (f : EmittedFunction) : List String :=
  f.function.parameters.map TypeScript.Parameter.name

theorem map_name_zipWith {identifiers : List String} {types : List TypeExpr}
    (h : types.length = identifiers.length) :
    (identifiers.zipWith TypeScript.Parameter.mk types).map TypeScript.Parameter.name =
      identifiers := by
  induction identifiers generalizing types with
  | nil => rfl
  | cons identifier rest ih =>
    cases types with
    | nil => cases h
    | cons t ts => rw [List.zipWith_cons_cons, List.map_cons, ih (Nat.succ.inj h)]

/-- The names in a signature are those of the route, of the query and of the body. -/
theorem Endpoint.map_name_parameters {e : Endpoint} {routeTypes : List TypeExpr}
    (h : e.routeTypes e.route = .ok routeTypes) (query : Option (String × Statement))
    (bodyType : Option TypeExpr) :
    (e.parameters routeTypes query bodyType).map TypeScript.Parameter.name =
      e.routeIdentifiers ++ (query.map fun _ => queryName).toList ++
        (bodyType.map fun _ => dataName).toList := by
  have hlength : routeTypes.length = e.routeIdentifiers.length := by
    rw [length_routeIdentifiers, length_routeTypes h]
  rw [parameters, List.map_append, List.map_append, map_name_zipWith hlength]
  congr 1
  · cases query <;> rfl
  · cases bodyType <;> rfl

section Call

variable {ctx : Context} {e : Endpoint} {names : Names} {call : CallInfo} {f : EmittedFunction}

/-- **The parameters of a function** are those of the route, and what the call is told of the query
and the body. -/
theorem Asks.parameterNames (h : Asks ctx e names call f) :
    f.parameterNames = e.routeIdentifiers ++ call.query.toList ++ call.body.toList := by
  obtain ⟨path, _, rfl, htypes, hparameters⟩ := h.eq_callOf
  rw [EmittedFunction.parameterNames, hparameters, Endpoint.map_name_parameters htypes]
  rfl

/-! ## Closed addresses -/

/-- The expression is a string literal, or a template literal in which only the given names are
substituted. -/
inductive ClosedIn (names : List String) (expression : String) : Prop where
  | string {text : String} (hread : readString? expression.toList = some (text, []))
  | template {t : PathTemplate} (hread : readTemplate? expression.toList = some (t, []))
      (hnames : ∀ name ∈ t.placeholders, name ∈ names)

theorem readTemplate?_stringLiteral (s : String) :
    readTemplate? (stringLiteral s).toList = none := by
  rw [toList_stringLiteral]
  rfl

theorem readString?_urlTemplate (t : PathTemplate) (expression : String → String) :
    readString? (t.urlTemplate expression).toList = none := by
  rw [urlTemplate, String.toList_ofList]
  rfl

theorem Asks.url_of_route {path : String} (h : Asks ctx e names call f) (hroute : e.route ≠ [])
    (hpath : e.requestPath ctx = .ok path) :
    call.url = (ofPath path).urlTemplate e.placeholderIdentifier := by
  obtain ⟨path', hpath', rfl, _⟩ := h.eq_callOf
  rw [hpath] at hpath'
  cases hpath'
  simp [Endpoint.callOf, Endpoint.urlExpression, PathTemplate.literalOf_eq, hroute]

/-- The address of an endpoint with route parameters is a template literal, if the path of its
requests opens no substitution behind its last placeholder. -/
theorem Asks.readTemplate?_url {path : String} (h : Asks ctx e names call f) (hroute : e.route ≠ [])
    (hpath : e.requestPath ctx = .ok path) (hlast : NoOpening (ofPath path).last) :
    readString? call.url.toList = none ∧
    ∃ t, readTemplate? call.url.toList = some (t, []) ∧
      t.placeholders = (ofPath path).placeholders.map e.placeholderIdentifier := by
  rw [h.url_of_route hroute hpath]
  refine ⟨readString?_urlTemplate .., _,
    readTemplate?_of_noOpening (fun name _ => e.isName_placeholderIdentifier name) hlast, ?_⟩
  rw [placeholders_filled, placeholders_withLineFeeds]

/-- What is substituted for a placeholder is a parameter if it is a route parameter, or if its own
name is, as a variable name. -/
theorem Asks.placeholderIdentifier_mem_iff (h : Asks ctx e names call f) (placeholder : String) :
    e.placeholderIdentifier placeholder ∈ f.parameterNames ↔
      placeholder ∈ e.routeNames ∨ Naming.sanitized placeholder ∈ f.parameterNames := by
  by_cases hroute : placeholder ∈ e.routeNames
  · have hmem : e.placeholderIdentifier placeholder ∈ f.parameterNames := by
      rw [h.parameterNames, List.append_assoc]
      exact List.mem_append_left _ (Endpoint.placeholderIdentifier_mem hroute)
    exact iff_of_true hmem (Or.inl hroute)
  · rw [Endpoint.placeholderIdentifier_of_not_mem hroute]
    exact (or_iff_right hroute).symm

/-- **The address is closed** if it is no template literal, or if every name that is substituted in
it is a parameter. -/
theorem Asks.closedIn_iff {path : String} (h : Asks ctx e names call f)
    (hpath : e.requestPath ctx = .ok path) (hlast : NoOpening (ofPath path).last) :
    ClosedIn f.parameterNames call.url ↔ e.route = [] ∨ ∀ placeholder ∈ (ofPath path).placeholders,
      placeholder ∈ e.routeNames ∨ Naming.sanitized placeholder ∈ f.parameterNames := by
  by_cases hroute : e.route = []
  · exact iff_of_true (.string (h.readString?_url hroute hpath)) (Or.inl hroute)
  · obtain ⟨hstring, t, hread, hsubstituted⟩ := h.readTemplate?_url hroute hpath hlast
    have hclosed : ClosedIn f.parameterNames call.url ↔
        ∀ name ∈ t.placeholders, name ∈ f.parameterNames := by
      refine ⟨?_, .template hread⟩
      rintro (hread' | ⟨hread', hnames⟩)
      · rw [hstring] at hread'
        cases hread'
      · rw [hread] at hread'
        cases hread'
        exact hnames
    rw [hclosed, hsubstituted, List.forall_mem_map, or_iff_right hroute]
    exact forall₂_congr fun placeholder _ => h.placeholderIdentifier_mem_iff placeholder

end Call

/-! ## Addresses of extracted operations -/

/-- **When an address is closed in the parameters of its function.** The parameters are those of the
route, to which the placeholders of the document belong, the query and the body. Without route
parameters the address is a string literal for the path of the requests. With them it is a template
literal, in which the placeholders of that path are substituted: it is closed exactly if each is a
route parameter or has the name of a parameter. So it is if the settings add no placeholder. -/
theorem address_closed_iff {d : Document} {ctx : Context} {modules : List TagModule}
    (hmodules : (extract d ctx).result = .ok modules) {m : TagModule} (hm : m ∈ modules)
    {e : Endpoint} (he : e ∈ m.endpoints) {names : Names} {call : CallInfo} {f : EmittedFunction}
    (hasks : Asks ctx e names call f) :
    ∃ path, e.requestPath ctx = .ok path ∧ (ctx.pathHook = none → path = e.path) ∧
      f.parameterNames = e.routeIdentifiers ++ call.query.toList ++ call.body.toList ∧
      (∀ placeholder ∈ (ofPath e.path).placeholders, placeholder ∈ e.routeNames) ∧
      (∀ placeholder ∈ e.routeNames, (placeholder, e.placeholderIdentifier placeholder) ∈
        e.routeNames.zip e.routeIdentifiers) ∧
      (∀ placeholder ∉ e.routeNames,
        e.placeholderIdentifier placeholder = Naming.sanitized placeholder) ∧
      (e.route = [] → readString? call.url.toList = some (path, [])) ∧
      (NoOpening (ofPath path).last →
        ((∃ t, readTemplate? call.url.toList = some (t, [])) ↔ e.route ≠ []) ∧
        (∀ t, readTemplate? call.url.toList = some (t, []) →
          t.placeholders = (ofPath path).placeholders.map e.placeholderIdentifier) ∧
        (ClosedIn f.parameterNames call.url ↔
          e.route = [] ∨ ∀ placeholder ∈ (ofPath path).placeholders,
            placeholder ∈ e.routeNames ∨ Naming.sanitized placeholder ∈ f.parameterNames) ∧
        ((ofPath path).placeholders ≠ [] →
          (∀ placeholder ∈ (ofPath path).placeholders, placeholder ∈ e.routeNames) →
          ∃ t, readTemplate? call.url.toList = some (t, []) ∧
            ∀ name ∈ t.placeholders, name ∈ f.parameterNames)) := by
  obtain ⟨p, _, rfl⟩ := exists_operation_of_extract hmodules hm he
  obtain ⟨path, hpath, -⟩ := hasks.eq_callOf
  have hnone : (p.endpoint d).route = [] → readTemplate? call.url.toList = none := by
    intro hroute
    rw [hasks.url_of_noRoute hroute hpath, readTemplate?_stringLiteral]
  refine ⟨path, hpath, fun hhook => ?_, hasks.parameterNames, p.placeholders_subset d,
    fun _ h => Endpoint.mem_zip_placeholderIdentifier h,
    fun _ h => Endpoint.placeholderIdentifier_of_not_mem h,
    fun hroute => hasks.readString?_url hroute hpath,
    fun hlast => ⟨⟨?_, fun hroute => ?_⟩, fun t hread => ?_, hasks.closedIn_iff hpath hlast,
      fun hne hsub => ?_⟩⟩
  · rw [Endpoint.requestPath, hhook] at hpath
    exact (Except.ok.inj hpath).symm
  · rintro ⟨t, hread⟩ hroute
    rw [hnone hroute] at hread
    cases hread
  · obtain ⟨_, t, hread, _⟩ := hasks.readTemplate?_url hroute hpath hlast
    exact ⟨t, hread⟩
  · by_cases hroute : (p.endpoint d).route = []
    · rw [hnone hroute] at hread
      cases hread
    · obtain ⟨_, t', hread', hsubstituted⟩ := hasks.readTemplate?_url hroute hpath hlast
      rw [hread] at hread'
      cases hread'
      exact hsubstituted
  · have hroute : (p.endpoint d).route ≠ [] := by
      obtain ⟨placeholder, hplaceholder⟩ := List.exists_mem_of_ne_nil _ hne
      intro hroute
      have hmem := hsub placeholder hplaceholder
      rw [Endpoint.routeNames, hroute] at hmem
      cases hmem
    obtain ⟨_, t, hread, hsubstituted⟩ := hasks.readTemplate?_url hroute hpath hlast
    refine ⟨t, hread, ?_⟩
    rw [hsubstituted, List.forall_mem_map]
    exact fun placeholder h => (hasks.placeholderIdentifier_mem_iff placeholder).2
      (Or.inl (hsub placeholder h))

/-! ## Paths that are changed -/

/-- A document with one operation, on the given path. -/
def pathDocument (path : String) : Document :=
  { Document.empty with
    paths := .ofPairs [(path, ⟨.ofPairs [(.get, ⟨["pets"], none, none, [], none, .empty⟩)], []⟩)] }

/-- The settings with a change of paths. -/
def pathContext (change : String → String) : Context :=
  { Context.ofTemplate (fun call => .ok call.url) with
    pathHook := some fun path => .ok (change path) }

/-- The function of an operation on the path, with its call. -/
structure Called (path : String) (change : String → String) (e : Endpoint) (call : CallInfo)
    (f : EmittedFunction) : Prop where
  endpoint : ∃ modules, (extract (pathDocument path) (pathContext change)).result = .ok modules ∧
    ∃ m ∈ modules, e ∈ m.endpoints
  path : e.path = path
  call : Asks (pathContext change) e (.ofModelTypes []) call f

/-- The operation on the path has a function with the given address and parameters. -/
def callIs (path : String) (change : String → String) (url : String) (parameters : List String) :
    Bool :=
  (extract (pathDocument path) (pathContext change)).result.toOption.any fun modules =>
    modules.any fun m => m.endpoints.any fun e =>
      e.path == path && (e.outline (pathContext change) (.ofModelTypes [])).toOption.any fun o =>
        (e.callOf o.1 o.2).url == url && o.2.parameterNames == parameters

theorem exists_called {path : String} {change : String → String} {url : String}
    {parameters : List String} (h : callIs path change url parameters = true) :
    ∃ e call f, Called path change e call f ∧ call.url = url ∧ f.parameterNames = parameters := by
  obtain ⟨modules, hmodules, h⟩ := (Option.any_eq_true _ _).1 h
  obtain ⟨m, hm, h⟩ := List.any_eq_true.1 h
  obtain ⟨e, he, h⟩ := List.any_eq_true.1 h
  obtain ⟨hpath, h⟩ := (Bool.and_eq_true _ _).mp h
  obtain ⟨⟨requested, f⟩, houtline, h⟩ := (Option.any_eq_true _ _).1 h
  obtain ⟨hurl, hparameters⟩ := (Bool.and_eq_true _ _).mp h
  exact ⟨e, _, f, ⟨⟨modules, eq_ok_of_toOption hmodules, m, hm, he⟩, eq_of_beq hpath,
    asks_of_outline (eq_ok_of_toOption houtline)⟩, eq_of_beq hurl, eq_of_beq hparameters⟩

/-- With another beginning of its path the address is closed. -/
theorem address_closed_prefixed :
    ∃ e call f, Called "/pets/\x7bid\x7d" ("/v1" ++ ·) e call f ∧
      call.url = "\x60/v1/pets/$\x7bid\x7d\x60" ∧ f.parameterNames = ["id"] ∧
      ∃ t, readTemplate? call.url.toList = some (t, []) ∧ t.placeholders ≠ [] ∧
        ∀ name ∈ t.placeholders, name ∈ f.parameterNames := by
  have hcall : callIs "/pets/\x7bid\x7d" ("/v1" ++ ·) "\x60/v1/pets/$\x7bid\x7d\x60" ["id"] =
      true := by
    decide +kernel
  obtain ⟨e, call, f, hcalled, hurl, hparameters⟩ := exists_called hcall
  obtain ⟨modules, hmodules, m, hm, he⟩ := hcalled.endpoint
  obtain ⟨path, hpath, -, -, hroute, -, -, -, hread⟩ :=
    address_closed_iff hmodules hm he hcalled.call
  obtain rfl : "/v1" ++ e.path = path := Except.ok.inj hpath
  rw [hcalled.path] at hread hroute
  have hplaceholders : (ofPath ("/v1" ++ "/pets/\x7bid\x7d")).placeholders =
      (ofPath "/pets/\x7bid\x7d").placeholders := by
    decide +kernel
  obtain ⟨-, hsubstituted, -, hclosed⟩ := hread (by decide +kernel)
  obtain ⟨t, ht, hnames⟩ := hclosed (by decide +kernel) (hplaceholders ▸ hroute)
  refine ⟨e, call, f, hcalled, hurl, hparameters, t, ht, ?_, hnames⟩
  rw [hsubstituted t ht, hplaceholders, ne_eq, List.map_eq_nil_iff]
  decide +kernel

/-- A placeholder that only the settings know is no parameter: where there are no others it is not
substituted, and where there are it is a free variable. -/
theorem address_not_closed :
    (ofPath "/v1/\x7btenant\x7d/pets").placeholders = ["tenant"] ∧
    (∃ e call f, Called "/pets" (fun _ => "/v1/\x7btenant\x7d/pets") e call f ∧
      call.url = "\"/v1/\x7btenant\x7d/pets\"" ∧ f.parameterNames = [] ∧
      readTemplate? call.url.toList = none) ∧
    ∃ e call f, Called "/pets/\x7bid\x7d" ("/v1/\x7btenant\x7d" ++ ·) e call f ∧
      call.url = "\x60/v1/$\x7btenant\x7d/pets/$\x7bid\x7d\x60" ∧ f.parameterNames = ["id"] ∧
      readTemplate? call.url.toList =
        some (⟨[("/v1/".toList, "tenant".toList), ("/pets/".toList, "id".toList)], []⟩, []) ∧
      ¬ ClosedIn f.parameterNames call.url := by
  have hunread : callIs "/pets" (fun _ => "/v1/\x7btenant\x7d/pets")
      "\"/v1/\x7btenant\x7d/pets\"" [] = true := by
    decide +kernel
  have hfree : callIs "/pets/\x7bid\x7d" ("/v1/\x7btenant\x7d" ++ ·)
      "\x60/v1/$\x7btenant\x7d/pets/$\x7bid\x7d\x60" ["id"] = true := by
    decide +kernel
  refine ⟨by decide +kernel, ?_, ?_⟩
  · obtain ⟨e, call, f, hcalled, hurl, hparameters⟩ := exists_called hunread
    exact ⟨e, call, f, hcalled, hurl, hparameters, by rw [hurl]; decide +kernel⟩
  · obtain ⟨e, call, f, hcalled, hurl, hparameters⟩ := exists_called hfree
    have hread : readTemplate? call.url.toList =
        some (⟨[("/v1/".toList, "tenant".toList), ("/pets/".toList, "id".toList)], []⟩, []) := by
      rw [hurl]
      decide +kernel
    refine ⟨e, call, f, hcalled, hurl, hparameters, hread, ?_⟩
    rintro (hstring | ⟨hread', hnames⟩)
    · rw [hurl] at hstring
      cases hstring
    · rw [hread] at hread'
      cases hread'
      rw [hparameters] at hnames
      exact absurd (hnames "tenant" (by decide +kernel)) (by decide)

end Request

end TypedRequests
