import TypedRequests.Proofs.Initials
import TypedRequests.Proofs.Resolution

/-!
# Names that a module binds

An endpoint module binds the names that it imports and those of its functions. Function names are
distinct, and so are query types; but the names from the model module are imported as they are, and
so one of them may be bound a second time.

* `boundNames`, `boundNames_endpointModule` : the names that a module binds, in order.
* `Clash` : an imported name that is also that of a function, or of a query type.
* `Emits.nodup_boundNames_iff` : without a clash all bound names are distinct, and only then.
* `Emits.clash_iff` : which names clash, read off the types of the functions.
* `bound_names_distinct_iff` : what this means for the modules of a document.
-/

set_option autoImplicit false

namespace TypedRequests

open TypeScript

/-! ## Bound names -/

/-- The names that a statement binds: those that it imports, or the one that it declares. -/
def TypeScript.Statement.boundNames : Statement → List String
  | .importNames i => i.names
  | s => s.declaredName?.toList

/-- The names that the statements of a module bind, in order. -/
def TypeScript.boundNames (m : Module) : List String :=
  m.flatMap Statement.boundNames

namespace Request

open OpenApi

variable {d : Document} {ctx : Context} {layout : OutputLayout} {names : Names}
  {es : List Endpoint} {fs : List EmittedFunction}

theorem boundNames_importOf (style : ImportStyle) (imported : List String) (source : String) :
    boundNames (importOf style imported source) = imported := by
  rw [importOf_eq]
  split
  · rename_i hempty
    rw [hempty]
    rfl
  · exact List.append_nil imported

/-- **An endpoint module binds the query types, the names from the model module, and those of its
functions.** -/
theorem boundNames_endpointModule (ctx : Context) (layout : OutputLayout) (tag : String)
    (fs : List EmittedFunction) :
    boundNames (endpointModule ctx layout tag fs) =
      queryTypes fs ++ modelImportsOf ctx fs ++ fs.map fun f => f.function.name := by
  have hfunctions : boundNames (fs.map fun f => .function f.function) =
      fs.map fun f => f.function.name := by
    rw [boundNames, List.flatMap_map, List.map_eq_flatMap]
    rfl
  rw [← boundNames_importOf ctx.importStyle (queryTypes fs) (ctx.importStyle.source querySource),
    ← boundNames_importOf ctx.importStyle (modelImportsOf ctx fs) (modelSource ctx layout tag),
    ← hfunctions, endpointModule]
  simp only [boundNames, List.flatMap_append]

/-! ## Clashes -/

/-- The name is imported from the model module, and it is that of a function, or of a query type. -/
structure Clash (ctx : Context) (fs : List EmittedFunction) (name : String) : Prop where
  imported : name ∈ modelImportsOf ctx fs
  bound : (∃ f ∈ fs, f.function.name = name) ∨ name ∈ queryTypes fs

theorem nodup_modelImportsOf (ctx : Context) (fs : List EmittedFunction) :
    (modelImportsOf ctx fs).Nodup :=
  (firstUses_modelImportsOf ctx fs).nodup

/-- Query types and functions never have a name in common. -/
theorem Emits.disjoint_queryTypes (h : Emits ctx names es fs) :
    ∀ q ∈ queryTypes fs, ∀ f ∈ fs, q ≠ f.function.name :=
  fun q hq f hf => ((h.beginsSmall f hf).ne (h.beginsCapital q hq)).symm

/-- **The bound names are distinct exactly if none clashes.** -/
theorem Emits.nodup_boundNames_iff (h : Emits ctx names es fs) (layout : OutputLayout)
    (tag : String) :
    (boundNames (endpointModule ctx layout tag fs)).Nodup ↔ ∀ name, ¬ Clash ctx fs name := by
  have hqueries := h.queryTypeNames.2
  have hfunctions := h.functionNames.2
  have hmodels := nodup_modelImportsOf ctx fs
  rw [boundNames_endpointModule]
  constructor
  · intro hnodup name hclash
    obtain ⟨himports, _, hdisjoint⟩ := List.nodup_append.1 hnodup
    rcases hclash.bound with ⟨f, hf, rfl⟩ | hq
    · exact hdisjoint _ (List.mem_append_right _ hclash.imported) _ (List.mem_map_of_mem hf) rfl
    · exact (List.nodup_append.1 himports).2.2 _ hq _ hclash.imported rfl
  · intro hnone
    have himports : (queryTypes fs ++ modelImportsOf ctx fs).Nodup :=
      List.nodup_append.2 ⟨hqueries, hmodels, fun q hq n hn he =>
        hnone n ⟨hn, Or.inr (he ▸ hq)⟩⟩
    refine List.nodup_append.2 ⟨himports, hfunctions, fun n hn g hg he => ?_⟩
    obtain ⟨f, hf, rfl⟩ := List.mem_map.1 hg
    rcases List.mem_append.1 hn with hn | hn
    · exact h.disjoint_queryTypes n hn f hf he
    · exact hnone n ⟨hn, Or.inl ⟨f, hf, he.symm⟩⟩

/-- **Which names clash**: a name that occurs in the types of the functions and is not built in, if
a function has it, or if a query type has it and no schema does. -/
theorem Emits.clash_iff (h : Emits ctx (Names.ofModelTypes (modelTypeNames d)) es fs)
    {name : String} :
    Clash ctx fs name ↔
      (∃ f ∈ fs, ∃ t ∈ f.modelTypes, t.Mentions name) ∧
      (name ≠ "unknown" ∧ name ∉ ctx.builtinTypes) ∧
      ((∃ f ∈ fs, f.function.name = name) ∨
        (name ∈ queryTypes fs ∧ name ∉ modelTypeNames d)) := by
  have himported : name ∈ modelImportsOf ctx fs ↔
      (∃ f ∈ fs, ∃ t ∈ f.modelTypes, t.Mentions name) ∧
        name ≠ "unknown" ∧ name ∉ ctx.builtinTypes := by
    rw [(firstUses_modelImportsOf ctx fs).mem]
    exact mem_neededNames_iff
  have hquery : name ∈ queryTypes fs ↔ name ∈ queryTypes fs ∧ name ∉ modelTypeNames d :=
    ⟨fun hq => ⟨hq, h.queryTypeNames.1 name hq⟩, And.left⟩
  rw [← hquery, ← and_assoc, ← himported]
  exact ⟨fun hclash => ⟨hclash.imported, hclash.bound⟩, fun hclash => ⟨hclash.1, hclash.2⟩⟩

/-- **The names that an endpoint module binds are distinct unless one clashes.** Whatever module is
planned for a tag, it binds the query types, the names from the model module and those of the
functions. One of them is bound twice exactly if it is imported from the model module and is the
name of a function, or that of a query type and of no schema. -/
theorem bound_names_distinct_iff {m : TagModule} {plan : TagPlan}
    (h : (m.plan ctx layout (modelTypeNames d)).result = .ok (some plan)) :
    ∃ fs, Emits ctx (Names.ofModelTypes (modelTypeNames d)) m.endpoints fs ∧
      plan = planOf ctx layout m.name fs ∧
      boundNames (endpointModule ctx layout m.name fs) =
        queryTypes fs ++ modelImportsOf ctx fs ++ (fs.map fun f => f.function.name) ∧
      ((boundNames (endpointModule ctx layout m.name fs)).Nodup ↔
        ∀ name, ¬ Clash ctx fs name) ∧
      ∀ name, Clash ctx fs name ↔
        (∃ f ∈ fs, ∃ t ∈ f.modelTypes, t.Mentions name) ∧
        (name ≠ "unknown" ∧ name ∉ ctx.builtinTypes) ∧
        ((∃ f ∈ fs, f.function.name = name) ∨
          (name ∈ queryTypes fs ∧ name ∉ modelTypeNames d)) := by
  obtain ⟨fs, hfs, _, hplan⟩ := plan_eq_some_iff.1 h
  exact ⟨fs, hfs, hplan, boundNames_endpointModule .., hfs.nodup_boundNames_iff layout m.name,
    fun name => hfs.clash_iff⟩

/-! ## A list of what a schema names -/

/-- A document with a named schema, and with an operation that lists what a reference names. -/
def listingDocument (component key : String) : Document :=
  let item : Schema := { Schema.empty with reference := some (schemaPrefix ++ key) }
  let limit : OpenApi.Parameter := ⟨"limit", .query, none, false, some textSchema⟩
  let operation : Operation := ⟨["pets"], none, none, [.inline limit], none,
    .ofPairs [("200", ⟨none, .ofPairs [("application/json", ⟨some item⟩)]⟩)]⟩
  { Document.empty with
    paths := .ofPairs [("/pets", ⟨.ofPairs [(.get, operation)], []⟩)]
    components := some ⟨some (.ofPairs [(component, textSchema)]), .empty⟩ }

/-- A module of the document is planned, with these functions. -/
structure Listing (component key : String) (m : TagModule) (fs : List EmittedFunction) : Prop where
  module : ∃ modules, (extract (listingDocument component key) namesContext).result = .ok modules ∧
    m ∈ modules
  functions : Emits namesContext
    (Names.ofModelTypes (modelTypeNames (listingDocument component key))) m.endpoints fs
  plan : (m.plan namesContext (.inDir ⟨"api"⟩ none)
      (modelTypeNames (listingDocument component key))).result =
    .ok (some (planOf namesContext (.inDir ⟨"api"⟩ none) m.name fs))

/-- The names that its module binds, as far as there is one. -/
def listingBinds (component key : String) (bound : List String) : Bool :=
  (extract (listingDocument component key) namesContext).result.toOption.any fun modules =>
    modules.any fun m =>
      (emitFunctions namesContext m.name
        (Names.ofModelTypes (modelTypeNames (listingDocument component key)))
        m.endpoints).result.toOption.any fun fs =>
          !fs.isEmpty &&
            boundNames (endpointModule namesContext (.inDir ⟨"api"⟩ none) m.name fs) == bound

theorem exists_listing {component key : String} {bound : List String}
    (h : listingBinds component key bound = true) :
    ∃ m fs, Listing component key m fs ∧
      boundNames (endpointModule namesContext (.inDir ⟨"api"⟩ none) m.name fs) = bound := by
  obtain ⟨modules, hmodules, h⟩ := (Option.any_eq_true _ _).1 h
  obtain ⟨m, hm, h⟩ := List.any_eq_true.1 h
  obtain ⟨fs, hfs, h⟩ := (Option.any_eq_true _ _).1 h
  have hemits := (emits_iff m.name).1 (eq_ok_of_toOption hfs)
  simp only [Bool.and_eq_true, Bool.not_eq_true', List.isEmpty_eq_false_iff, beq_iff_eq] at h
  exact ⟨m, fs, ⟨⟨modules, eq_ok_of_toOption hmodules, hm⟩, hemits,
    plan_eq_some_iff.2 ⟨fs, hemits, h.1, rfl⟩⟩, h.2⟩

/-- A schema `Pet` is bound beside the function and its query type. -/
theorem bound_names_listing :
    ∃ m fs, Listing "Pet" "Pet" m fs ∧
      boundNames (endpointModule namesContext (.inDir ⟨"api"⟩ none) m.name fs) =
        ["GetPetsQuery", "Pet", "getPets"] ∧
      ∀ name, ¬ Clash namesContext fs name := by
  have hbinds : listingBinds "Pet" "Pet" ["GetPetsQuery", "Pet", "getPets"] = true := by
    decide +kernel
  obtain ⟨m, fs, hlisting, hbound⟩ := exists_listing hbinds
  obtain ⟨fs', hfs', -, -, hnodup, -⟩ := bound_names_distinct_iff hlisting.plan
  obtain rfl : fs' = fs := Except.ok.inj
    (((emits_iff m.name).2 hfs').symm.trans ((emits_iff m.name).2 hlisting.functions))
  exact ⟨m, fs', hlisting, hbound, hnodup.1 (hbound ▸ by decide)⟩

/-- A schema `getPets` is imported beside the function of that name, and a reference to no schema
beside the query type of that name. -/
theorem bound_twice :
    (∃ m fs, Listing "getPets" "getPets" m fs ∧
      boundNames (endpointModule namesContext (.inDir ⟨"api"⟩ none) m.name fs) =
        ["GetPetsQuery", "getPets", "getPets"]) ∧
    (∃ m fs, Listing "Pet" "GetPetsQuery" m fs ∧
      boundNames (endpointModule namesContext (.inDir ⟨"api"⟩ none) m.name fs) =
        ["GetPetsQuery", "GetPetsQuery", "getPets"]) ∧
    (generate (listingDocument "getPets" "getPets") namesContext (.inDir ⟨"api"⟩ none)
        (FileMap.writer []) .empty).2.find? ⟨"api/pets/index.ts"⟩ =
      some ("import \x7b GetPetsQuery \x7d from \"./model\";\n" ++
        "import \x7b getPets \x7d from \"../model\";\n\n" ++
        "export function getPets(query: GetPetsQuery) \x7b\n  return \"/pets\";\n\x7d\n") :=
  ⟨exists_listing (by decide +kernel), exists_listing (by decide +kernel), by decide +kernel⟩

end Request

end TypedRequests
