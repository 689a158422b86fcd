import TypedRequests.Proofs.Resolution

/-!
# Which types the model module declares

The names of the model types are taken from the names of all named schemas, the declarations of the
model module only from those schemas that have one. Both leave out quotation marks.

* `mem_modelTypeNames_iff` : the names of the model types are those of all named schemas.
* `nodup_exported_iff` : declared names are different exactly if those of the declared schemas are.
* `DeclaredTypes`, `declaredTypes` : how the declared names and those of the model types relate.
* `type_without_declaration` : a model type that is not declared, and a name that is declared twice.
-/

set_option autoImplicit false

namespace TypedRequests

/-- No two named schemas have one name. -/
theorem OpenApi.Document.nodup_keys_namedSchemas (d : Document) :
    (Entries.keys d.namedSchemas).Nodup := by
  unfold Document.namedSchemas
  cases d.schemas? with
  | none => exact List.nodup_nil
  | some schemas => exact schemas.distinct

namespace Request

open OpenApi

variable {d : Document}

/-- **The names of the model types are those of all named schemas.** -/
theorem mem_modelTypeNames_iff {name : String} :
    name ∈ modelTypeNames d ↔ ∃ e ∈ d.namedSchemas, Naming.withoutQuotes e.1 = name := by
  unfold modelTypeNames Document.namedSchemas
  cases d.schemas? with
  | none => simp
  | some schemas => simp [List.mem_eraseDups, OrderedMap.keys, Entries.keys]

/-- The named schemas have different names as types if they have declarations. -/
def DistinctDeclarations (d : Document) : Prop :=
  ∀ e ∈ d.namedSchemas, ∀ e' ∈ d.namedSchemas, ¬ e.2.DeclarationReachesBroken →
    ¬ e'.2.DeclarationReachesBroken → Naming.withoutQuotes e.1 = Naming.withoutQuotes e'.1 →
      e = e'

/-- **Declared names are different exactly if those of the declared schemas are.** -/
theorem nodup_exported_iff : (exported d).Nodup ↔ DistinctDeclarations d := by
  have hnodup : (d.namedSchemas.filter fun e => ¬ e.2.DeclarationReachesBroken).Nodup :=
    (List.Nodup.of_map _ d.nodup_keys_namedSchemas).filter _
  rw [exported_eq, List.nodup_map_iff_inj_on hnodup]
  simp only [List.mem_filter, decide_eq_true_eq]
  exact ⟨fun h e he e' he' hb hb' => h e ⟨he, hb⟩ e' ⟨he', hb'⟩,
    fun h e he e' he' => h e he.1 e' he'.1 he.2 he'.2⟩

/-- How the names that the model module declares and those of the model types relate. -/
structure DeclaredTypes (d : Document) : Prop where
  /-- The declared names are those of the named schemas that have a declaration, in order. -/
  declared : exported d = (d.namedSchemas.filter fun e => ¬ e.2.DeclarationReachesBroken).map
    fun e => Naming.withoutQuotes e.1
  /-- The names of the model types are those of all named schemas, each once. -/
  types : (modelTypeNames d).Nodup ∧ ∀ name, name ∈ modelTypeNames d ↔
    ∃ e ∈ d.namedSchemas, Naming.withoutQuotes e.1 = name
  /-- A document that names no schema has neither. -/
  absent : d.namedSchemas = [] → exported d = [] ∧ modelTypeNames d = []
  /-- What is declared is a model type. -/
  subset : ∀ name ∈ exported d, name ∈ modelTypeNames d
  /-- The declared names are pairwise different exactly if those of the declared schemas are. -/
  distinct : (exported d).Nodup ↔ DistinctDeclarations d
  /-- Every model type is declared exactly if every named schema shares its name as a type with one
  that has a declaration. -/
  same : (∀ name, name ∈ exported d ↔ name ∈ modelTypeNames d) ↔ ∀ e ∈ d.namedSchemas,
    ∃ e' ∈ d.namedSchemas, ¬ e'.2.DeclarationReachesBroken ∧
      Naming.withoutQuotes e'.1 = Naming.withoutQuotes e.1

/-- **The model module declares its types as far as their schemas have declarations.** -/
theorem declaredTypes (d : Document) : DeclaredTypes d where
  declared := exported_eq d
  types := by
    refine ⟨?_, fun name => mem_modelTypeNames_iff⟩
    unfold modelTypeNames
    cases d.schemas? with
    | none => exact List.nodup_nil
    | some schemas => exact (firstUses_eraseDups _).nodup
  absent h := by
    have htypes : modelTypeNames d = [] := List.eq_nil_iff_forall_not_mem.2 fun name hname => by
      obtain ⟨e, he, -⟩ := mem_modelTypeNames_iff.1 hname
      rw [h] at he
      cases he
    rw [exported_eq, h]
    exact ⟨rfl, htypes⟩
  subset name hname := by
    obtain ⟨e, he, -, hname⟩ := mem_exported_iff.1 hname
    exact mem_modelTypeNames_iff.2 ⟨e, he, hname⟩
  distinct := nodup_exported_iff
  same := by
    simp only [mem_exported_iff, mem_modelTypeNames_iff]
    constructor
    · intro h e he
      exact (h _).2 ⟨e, he, rfl⟩
    · refine fun h name => ⟨fun ⟨e, he, _, hname⟩ => ⟨e, he, hname⟩, ?_⟩
      rintro ⟨e, he, rfl⟩
      exact h e he

/-! ## Types that are not declared once -/

/-- A document with named schemas and nothing else. -/
def schemasDocument (schemas : List (String × Schema)) : Document :=
  { Document.empty with components := some ⟨some (.ofPairs schemas), .empty⟩ }

/-- An object without properties. -/
def objectSchema : Schema :=
  { Schema.empty with type := some (.single "object") }

/-- An array without items is a model type that is not declared, and two names that differ in
quotation marks are declared as one. -/
theorem type_without_declaration :
    exported (schemasDocument [("Names", brokenArray), ("Pet", objectSchema)]) = ["Pet"] ∧
      modelTypeNames (schemasDocument [("Names", brokenArray), ("Pet", objectSchema)]) =
        ["Names", "Pet"] ∧
      exported (schemasDocument [("Pet", objectSchema), ("'Pet'", objectSchema)]) =
        ["Pet", "Pet"] ∧
      modelTypeNames (schemasDocument [("Pet", objectSchema), ("'Pet'", objectSchema)]) =
        ["Pet"] := by
  decide +kernel

end Request

end TypedRequests
