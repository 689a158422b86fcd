import TypedRequests.Proofs.Casing
import TypedRequests.Proofs.Emission
import TypedRequests.Request.Generate

/-!
# Names that modules declare

A module declares each of its names once, and a query type of a tag never has the name of a type of
the model module.

* `Emits.functionNames`, `Emits.queryTypeNames` : the names of functions and of query types are new.
* `declaredNames_queryStatements` : query types are declared by the names they have taken.
* `declaredName_mem_modelTypeNames` : what the model module declares is among the model types.
* `FreshDeclarations` : what this means for the modules of a tag.
* `fresh_names` : whatever is asked for, the names that are answered are fresh, and so the
  declarations of a run are.
-/

set_option autoImplicit false

namespace TypedRequests.Request

open OpenApi TypeScript

variable {ctx : Context} {e : Endpoint} {es : List Endpoint} {names names' : Names}
  {f : EmittedFunction} {fs : List EmittedFunction}

/-! ## New names -/

/-- **Functions of a module have names that are new**, each a different one. -/
theorem Emits.functionNames (h : Emits ctx names es fs) :
    (∀ f ∈ fs, f.function.name ∉ names.taken) ∧ (fs.map fun f => f.function.name).Nodup := by
  induction h with
  | nil => exact ⟨fun f hf => (nomatch hf), List.nodup_nil⟩
  | @emitted names names' e es f fs hf _ ih =>
    obtain ⟨hnew, hnodup⟩ := ih
    have hspec := emitFunction_ok hf
    obtain ⟨path, _, hname⟩ := hspec.name
    have hfree : f.function.name ∉ names.taken := by
      rw [hname]
      exact (names.functionName_spec _ _).not_mem
    rw [hspec.names] at hnew
    refine ⟨List.forall_mem_cons.2 ⟨hfree, fun g hg hm => ?_⟩, ?_⟩
    · exact hnew g hg (List.mem_cons_of_mem _ hm)
    · rw [List.map_cons, List.nodup_cons]
      refine ⟨fun hm => ?_, hnodup⟩
      obtain ⟨g, hg, hgf⟩ := List.mem_map.1 hm
      exact hnew g hg (hgf ▸ List.mem_cons_self ..)
  | @skipped names names' e es fs _ _ hf _ ih =>
    obtain ⟨hnew, hnodup⟩ := ih
    have hgrows := (emitFunction_extends ctx e names).1
    rw [hf] at hgrows
    exact ⟨fun g hg hm => hnew g hg (hgrows hm), hnodup⟩

theorem queryTypes_cons (f : EmittedFunction) (fs : List EmittedFunction) :
    queryTypes (f :: fs) = (f.query.map Prod.fst).toList ++ queryTypes fs := by
  cases hq : f.query <;> simp [queryTypes, hq]

/-- The name of a query type of an emitted function answers the question for one. -/
theorem Emitted.typeAnswer (h : Emitted ctx e names f names') {q : String}
    (hq : q ∈ f.query.map Prod.fst) :
    TypeAnswer names.types (Naming.queryTypeName f.function.name) q := by
  rw [h.queryName] at hq
  split at hq
  · cases hq
  · cases hq
    exact names.typeName_spec _

/-- **Query types of a module have names that are new**, each a different one. -/
theorem Emits.queryTypeNames (h : Emits ctx names es fs) :
    (∀ q ∈ queryTypes fs, q ∉ names.types) ∧ (queryTypes fs).Nodup := by
  induction h with
  | nil => exact ⟨fun q hq => (nomatch hq), List.nodup_nil⟩
  | @emitted names names' e es f fs hf _ ih =>
    obtain ⟨hnew, hnodup⟩ := ih
    have hspec := emitFunction_ok hf
    rw [hspec.names] at hnew
    rw [queryTypes_cons]
    cases hq : f.query.map Prod.fst with
    | none =>
      rw [hq] at hnew
      exact ⟨hnew, hnodup⟩
    | some q =>
      rw [hq] at hnew
      have hfree : q ∉ names.types := (hspec.typeAnswer hq).not_mem
      refine ⟨List.forall_mem_cons.2 ⟨hfree, fun r hr hm => ?_⟩,
        List.nodup_cons.2 ⟨fun hm => ?_, hnodup⟩⟩
      · exact hnew r hr (List.mem_cons_of_mem _ hm)
      · exact hnew q hm (List.mem_cons_self ..)
  | @skipped names names' e es fs _ _ hf _ ih =>
    obtain ⟨hnew, hnodup⟩ := ih
    have hgrows := (emitFunction_extends ctx e names).2
    rw [hf] at hgrows
    exact ⟨fun q hq hm => hnew q hq (hgrows hm), hnodup⟩

/-! ## Declared names -/

theorem declaredName_declareType (name : String) (doc : Option String) (t : TypeExpr) :
    (declareType name doc t).declaredName? = some name := by
  cases t <;> rfl

/-- A declaration has the name of its schema, without quotes. -/
theorem declaredName_declare {key : String} {s : Schema} {st : Statement}
    (h : declare key s = .ok st) : st.declaredName? = some (Naming.withoutQuotes key) := by
  cases declaredBy_of_declare h with
  | properties _ _ _ => exact declaredName_declareType _ _ _
  | values _ => rfl
  | type _ _ => exact declaredName_declareType _ _ _

theorem isWordChar_of_mem_toString {n : Nat} {c : Char} (hc : c ∈ (toString n).toList) :
    Text.isWordChar c = true := by
  rw [Nat.toString_eq_ofList_toDigits, String.toList_ofList] at hc
  have hdigit : c.isDigit = true := Nat.isDigit_of_mem_toDigits (by decide) (by decide) hc
  simp [Text.isWordChar, Char.isAlphanum, hdigit]

/-- The name of a query type has no ASCII character but letters and digits. -/
theorem isWordChar_of_typeAnswer {taken : List String} {function q : String}
    (h : TypeAnswer taken (Naming.queryTypeName function) q) :
    ∀ c ∈ q.toList, Text.isWordChar c = true := by
  cases h with
  | base _ => exact fun c hc => Naming.isWordChar_of_mem_queryTypeName hc
  | numbered _ hname =>
    obtain ⟨n, _, _, rfl, _⟩ := hname
    intro c hc
    rw [String.toList_append] at hc
    rcases List.mem_append.1 hc with hc | hc
    · exact Naming.isWordChar_of_mem_queryTypeName hc
    · exact isWordChar_of_mem_toString hc

/-- **Query types are declared by the names they have taken.** -/
theorem declaredNames_queryStatements (h : Emits ctx names es fs) :
    (queryStatements fs).filterMap Statement.declaredName? = queryTypes fs := by
  induction h with
  | nil => rfl
  | @emitted _ _ _ _ f _ hf _ ih =>
    have hspec := emitFunction_ok hf
    cases hq : f.query with
    | none => simpa [queryStatements, queryTypes, hq] using ih
    | some q =>
      have hchars := isWordChar_of_typeAnswer (hspec.typeAnswer (by rw [hq]; rfl))
      have hname : q.2.declaredName? = some q.1 := by
        rw [declaredName_declare (hspec.queryType q hq), Naming.withoutQuotes_of_isWordChar hchars]
      simpa [queryStatements, queryTypes, hq, hname] using ih
  | skipped _ _ ih => exact ih

/-- Every declaration of named schemas is that of one of them. -/
theorem exists_of_mem_declareAll {es : List (String × Schema)} {s : Statement}
    (hs : s ∈ (declareAll es).2) : ∃ e ∈ es, declare e.1 e.2 = .ok s := by
  induction es with
  | nil => cases hs
  | cons e es ih =>
    obtain ⟨key, schema⟩ := e
    unfold declareAll at hs
    cases hd : declare key schema with
    | error err =>
      rw [hd] at hs
      obtain ⟨e, he, hdeclare⟩ := ih hs
      exact ⟨e, List.mem_cons_of_mem _ he, hdeclare⟩
    | ok st =>
      rw [hd] at hs
      rcases List.mem_cons.1 hs with rfl | hs
      · exact ⟨_, List.mem_cons_self .., hd⟩
      · obtain ⟨e, he, hdeclare⟩ := ih hs
        exact ⟨e, List.mem_cons_of_mem _ he, hdeclare⟩

/-- A declaration of named schemas has one of their names. -/
theorem declaredName_of_mem_declareAll {schemas : List (String × Schema)} {s : Statement}
    {name : String} (hs : s ∈ (declareAll schemas).2) (hname : s.declaredName? = some name) :
    name ∈ (Entries.keys schemas).map Naming.withoutQuotes := by
  obtain ⟨e, he, hdeclare⟩ := exists_of_mem_declareAll hs
  rw [declaredName_declare hdeclare] at hname
  cases hname
  exact List.mem_map_of_mem (List.mem_map_of_mem he)

/-- **What the model module declares is among the model types.** -/
theorem declaredName_mem_modelTypeNames {d : Document} {notices : List Notice} {module : Module}
    (hm : modelModule? d = some (notices, module)) {name : String}
    (hname : name ∈ module.filterMap Statement.declaredName?) : name ∈ modelTypeNames d := by
  unfold modelModule? at hm
  unfold modelTypeNames
  cases hd : d.schemas? with
  | none =>
    rw [hd] at hm
    cases hm
  | some m =>
    rw [hd] at hm
    obtain ⟨s, hs, hname⟩ := List.mem_filterMap.1 hname
    have hmodule : (declareAll m.entries).2 = module := congrArg Prod.snd (Option.some.inj hm)
    rw [← hmodule] at hs
    exact List.mem_eraseDups.2 (declaredName_of_mem_declareAll hs hname)

/-! ## Declarations of the modules of a tag -/

theorem declaredNames_importOf (style : ImportStyle) (imported : List String) (source : String) :
    (importOf style imported source).filterMap Statement.declaredName? = [] := by
  unfold importOf
  split <;> rfl

/-- The endpoint module declares its functions. -/
theorem declaredNames_endpointModule (ctx : Context) (layout : OutputLayout) (tag : String)
    (fs : List EmittedFunction) :
    (endpointModule ctx layout tag fs).filterMap Statement.declaredName? =
      fs.map fun f => f.function.name := by
  unfold endpointModule
  rw [List.filterMap_append, List.filterMap_append, declaredNames_importOf, declaredNames_importOf,
    List.nil_append, List.nil_append, List.filterMap_map]
  exact congrFun (List.filterMap_eq_map (f := fun f : EmittedFunction => f.function.name)) fs

/-- The query module declares the query types of the functions. -/
theorem declaredNames_queryModule (h : Emits ctx names es fs) (layout : OutputLayout)
    (tag : String) :
    (queryModule ctx layout tag fs).filterMap Statement.declaredName? = queryTypes fs := by
  have hdeclared := declaredNames_queryStatements h
  unfold queryModule
  split
  · rename_i hempty
    rw [← hdeclared, List.isEmpty_iff.1 hempty]
  · rw [List.filterMap_append, declaredNames_importOf, hdeclared, List.nil_append]

/-- The modules of a tag declare each name once, and the query module declares none that the model
module does. -/
structure FreshDeclarations (d : Document) (ctx : Context) (layout : OutputLayout) (tag : String)
    (fs : List EmittedFunction) : Prop where
  functions : ((endpointModule ctx layout tag fs).filterMap Statement.declaredName?).Nodup
  queryTypes : ((queryModule ctx layout tag fs).filterMap Statement.declaredName?).Nodup
  shadows : ∀ notices module, modelModule? d = some (notices, module) →
    ∀ name ∈ (queryModule ctx layout tag fs).filterMap Statement.declaredName?,
      name ∉ module.filterMap Statement.declaredName?

/-- The functions of a run have fresh names, and so have their query types. -/
theorem Emits.freshDeclarations {d : Document}
    (h : Emits ctx (Names.ofModelTypes (modelTypeNames d)) es fs) (layout : OutputLayout)
    (tag : String) : FreshDeclarations d ctx layout tag fs := by
  refine ⟨?_, ?_, fun notices module hm name hname hmodel => ?_⟩
  · rw [declaredNames_endpointModule]
    exact h.functionNames.2
  · rw [declaredNames_queryModule h]
    exact h.queryTypeNames.2
  · rw [declaredNames_queryModule h] at hname
    exact h.queryTypeNames.1 name hname (declaredName_mem_modelTypeNames hm hmodel)

/-- **Names are fresh over whole runs.** Whatever is asked for and in whatever order, the answers
are as `FreshAnswers` says. Therefore the modules of every tag of every run have fresh
declarations. -/
theorem fresh_names (modelTypes : List String) (calls : List NameCall) (d : Document)
    (ctx : Context) (layout : OutputLayout) :
    FreshAnswers modelTypes calls ((Names.ofModelTypes modelTypes).answers calls) ∧
      ∀ modules, (extract d ctx).result = .ok modules → ∀ m ∈ modules, ∀ plan,
        (m.plan ctx layout (modelTypeNames d)).result = .ok (some plan) →
          ∃ fs, Emits ctx (Names.ofModelTypes (modelTypeNames d)) m.endpoints fs ∧
            plan = planOf ctx layout m.name fs ∧ FreshDeclarations d ctx layout m.name fs := by
  refine ⟨Names.freshAnswers modelTypes calls, fun modules _ m _ plan hplan => ?_⟩
  obtain ⟨fs, hfs, _, rfl⟩ := plan_eq_some_iff.1 hplan
  exact ⟨fs, hfs, rfl, hfs.freshDeclarations layout m.name⟩

end TypedRequests.Request
