import TypedRequests.Proofs.BrokenSchemas
import TypedRequests.Proofs.Extraction
import TypedRequests.Proofs.Imports
import TypedRequests.Proofs.ParameterChains
import TypedRequests.Proofs.Parameters
import TypedRequests.Proofs.Paths
import TypedRequests.Proofs.Skipping

/-!
# Where names in types come from

Every name in the type of a schema is that of a reference which is reached from it, and every schema
that an operation needs a type for stands in the document.

* `Schema.exists_refers`, `exists_refers_of_declare` : names in types and in declarations.
* `Schema.Part`, `Document.Holds` : the schemas in a document, at any depth.
* `Endpoint.holds_schemas` : those that an endpoint needs are among them.
* `Document.LocalReferences` : every reference names a schema of the document.
* `Emitted.exists_refers`, `Emitted.exists_refers_of_query` : the names that functions and their
  query types use.
-/

set_option autoImplicit false

namespace TypedRequests

open OpenApi TypeScript

theorem Entries.mem_of_find? {κ α : Type} [DecidableEq κ] {key : κ} {value : α}
    {es : List (κ × α)} (h : find? key es = some value) : (key, value) ∈ es := by
  induction es with
  | nil => cases h
  | cons e es ih =>
    obtain ⟨k, v⟩ := e
    unfold find? at h
    split at h
    · rename_i hk
      cases h
      exact hk ▸ List.mem_cons_self ..
    · exact List.mem_cons_of_mem _ (ih h)

namespace OpenApi

/-! ## Names in types -/

namespace Schema

/-- The schema is a reference under the given name. -/
def Refers (s : Schema) (name : String) : Prop :=
  ∃ r, s.reference = some r ∧ Naming.referenceName r = name

variable {s : Schema} {t : TypeExpr} {name : String}

theorem exists_property_of_mem {ps : List (String × Schema)} {ms : List (Member TypeExpr)}
    (h : describeMembers ps = .ok ms) {m : Member TypeExpr} (hm : m ∈ ms) :
    ∃ p ∈ ps, p.2.describe = .ok m.type := by
  induction ps generalizing ms with
  | nil =>
    rw [describeMembers] at h
    cases h
    cases hm
  | cons p ps ih =>
    rw [describeMembers_cons] at h
    cases hp : p.2.describe with
    | error e =>
      rw [hp] at h
      cases h
    | ok type =>
      cases hps : describeMembers ps with
      | error e =>
        rw [hp, hps] at h
        cases h
      | ok rest =>
        rw [hp, hps] at h
        cases h
        rcases List.mem_cons.1 hm with rfl | hm
        · exact ⟨p, List.mem_cons_self .., hp⟩
        · obtain ⟨q, hq, hdescribe⟩ := ih hps hm
          exact ⟨q, List.mem_cons_of_mem _ hq, hdescribe⟩

/-- A name in the type of properties is in the type of one of them, or in that of the values. -/
theorem exists_of_describeObject (h : s.describeObject = .ok t) (hm : t.Mentions name) :
    (∃ ps, s.properties = some ps ∧
      ∃ p ∈ ps, ∃ t', p.2.describe = .ok t' ∧ t'.Mentions name) ∨
    (s.properties = none ∧ ∃ value, s.additional = some (.schema value) ∧
      ∃ t', value.describe = .ok t' ∧ t'.Mentions name) := by
  unfold describeObject at h
  cases hps : s.properties with
  | some ps =>
    rw [hps] at h
    obtain ⟨ms, hms, rfl⟩ := map_eq_ok.1 h
    cases hm with
    | member hmem hm =>
      obtain ⟨p, hp, hdescribe⟩ := exists_property_of_mem hms hmem
      exact Or.inl ⟨ps, rfl, p, hp, _, hdescribe, hm⟩
  | none =>
    simp only [hps] at h
    unfold describeAdditional at h
    split at h
    · rename_i value ha
      obtain ⟨t', ht', rfl⟩ := map_eq_ok.1 h
      cases hm with
      | map hm => exact Or.inr ⟨rfl, value, ha, t', ht', hm⟩
    · cases h
      cases hm with
      | map hm => cases hm
    · cases h
      cases hm
    · cases h
      cases hm

theorem eq_of_mentions_reference {target : String} (h : (TypeExpr.reference target).Mentions name) :
    target = name := by
  cases h
  rfl

/-- A name in the type of a schema is that of its reference, or is in the type of a child. -/
theorem exists_child_of_mentions (h : s.describe = .ok t) (hm : t.Mentions name) :
    s.Refers name ∨ ∃ c t', s.Child c ∧ c.describe = .ok t' ∧ t'.Mentions name := by
  rw [describe_eq] at h
  cases hr : s.reference with
  | some r =>
    simp only [hr] at h
    obtain rfl := Except.ok.inj h
    exact Or.inl ⟨r, hr, eq_of_mentions_reference hm⟩
  | none =>
    simp only [hr] at h
    cases hk : s.kind <;> rw [hk] at h
    case string | number | boolean | unknown =>
      cases h
      cases hm
    case array =>
      have ht := kind_eq_array.1 hk
      cases hi : s.items with
      | none =>
        rw [hi, describeItems] at h
        cases h
      | some item =>
        rw [hi, describeItems] at h
        obtain ⟨t', ht', rfl⟩ := map_eq_ok.1 h
        cases hm with
        | array hm => exact Or.inr ⟨item, t', .items hr ht hi, ht', hm⟩
    case object =>
      have ht := kind_eq_object.1 hk
      rcases exists_of_describeObject h hm with ⟨ps, hps, p, hp, t', ht', hm⟩ |
        ⟨hps, value, ha, t', ht', hm⟩
      · exact Or.inr ⟨p.2, t', .property hr ht hps hp, ht', hm⟩
      · exact Or.inr ⟨value, t', .additional hr ht hps ha, ht', hm⟩

/-- **A name in the type of a schema is that of a reference which is reached from it.** -/
theorem exists_refers {s : Schema} {t : TypeExpr} (h : s.describe = .ok t)
    (hm : t.Mentions name) : ∃ u, s.Reaches u ∧ u.Refers name := by
  rcases exists_child_of_mentions h hm with hr | ⟨c, t', hc, ht', hm'⟩
  · exact ⟨s, .refl, hr⟩
  · obtain ⟨u, hu, hr⟩ := exists_refers ht' hm'
    exact ⟨u, .head hc hu, hr⟩
termination_by sizeOf s
decreasing_by exact hc.sizeOf_lt

end Schema

theorem mentions_of_declareType {key : String} {doc : Option String} {t t' : TypeExpr}
    {name : String} (ht : t' ∈ (declareType key doc t).types) (hm : t'.Mentions name) :
    t.Mentions name := by
  cases t with
  | object members =>
    rw [declareType, Statement.types, Option.toList_none, List.append_nil] at ht
    obtain ⟨m, hmem, rfl⟩ := List.mem_map.1 ht
    exact .member hmem hm
  | map value =>
    obtain rfl := List.mem_singleton.1 ht
    exact .map hm
  | string | number | boolean | array | reference | any | unknown =>
    obtain rfl := List.mem_singleton.1 ht
    exact hm

/-- A name in a declaration of properties is in the type of one of them. -/
theorem exists_property_of_declare {key : String} {s : Schema} {st : Statement}
    {ps : List (String × Schema)} (h : declare key s = .ok st) (hr : s.reference = none)
    (hps : s.properties = some ps) {t : TypeExpr} (ht : t ∈ st.types) {name : String}
    (hm : t.Mentions name) : ∃ p ∈ ps, ∃ t', p.2.describe = .ok t' ∧ t'.Mentions name := by
  unfold declare at h
  rw [if_pos (by rw [hr, hps]; rfl)] at h
  obtain ⟨t', ht', rfl⟩ := map_eq_ok.1 h
  rcases Schema.exists_of_describeObject ht' (mentions_of_declareType ht hm) with
    ⟨ps', hps', hproperty⟩ | ⟨hnone, _⟩
  · rw [hps] at hps'
    cases hps'
    exact hproperty
  · rw [hps] at hnone
    cases hnone

/-- **A name in a declaration is that of a reference which is reached from its schema.** -/
theorem exists_refers_of_declare {key : String} {s : Schema} {st : Statement}
    (h : declare key s = .ok st) {t : TypeExpr} (ht : t ∈ st.types) {name : String}
    (hm : t.Mentions name) : ∃ u, s.DeclarationReaches u ∧ u.Refers name := by
  cases declaredBy_of_declare h with
  | properties hr hproperties _ =>
    obtain ⟨ps, hps⟩ := Option.isSome_iff_exists.1 hproperties
    obtain ⟨p, hp, t', ht', hm'⟩ := exists_property_of_declare h hr hps ht hm
    obtain ⟨u, hu, hrefers⟩ := Schema.exists_refers ht' hm'
    exact ⟨u, .property hr hps hp hu, hrefers⟩
  | values _ =>
    -- listed values have no types
    cases ht
  | type hother hdescribe =>
    obtain ⟨u, hu, hrefers⟩ := Schema.exists_refers hdescribe (mentions_of_declareType ht hm)
    exact ⟨u, .type hother hu, hrefers⟩

/-! ## Plain names -/

/-- What a reference to a named schema begins with. -/
def schemaPrefix : String := "#/components/schemas/"

/-- The name has no slash and no quote, so that a reference keeps it whole. -/
structure PlainKey (key : String) : Prop where
  noSlash : '/' ∉ key.toList
  noQuote : ∀ c ∈ key.toList, Naming.isQuote c = false

theorem PlainKey.withoutQuotes {key : String} (h : PlainKey key) :
    Naming.withoutQuotes key = key := by
  unfold Naming.withoutQuotes
  rw [List.filter_eq_self.2 fun c hc => by rw [h.noQuote c hc]; rfl, String.ofList_toList]

theorem lastSegment_of_not_mem {path : String} (h : '/' ∉ path.toList) :
    Naming.lastSegment path = path := by
  rw [Naming.lastSegment, Text.splitOn_of_not_mem h, List.getLast?_singleton, Option.getD_some,
    String.ofList_toList]

/-- What a reference to a key stands for is what comes last in the key. -/
theorem referenceName_schemaPrefix (key : String) :
    Naming.referenceName (schemaPrefix ++ key) = Naming.withoutQuotes (Naming.lastSegment key) := by
  have hprefix : schemaPrefix.toList = "#/components/schemas".toList ++ ['/'] := by decide
  have hlist : (schemaPrefix ++ key).toList =
      "#/components/schemas".toList ++ '/' :: key.toList := by
    rw [String.toList_append, hprefix, List.append_assoc, List.singleton_append]
  have hlast : Naming.lastSegment (schemaPrefix ++ key) = Naming.lastSegment key := by
    rw [Naming.lastSegment, hlist, Text.splitOn_append,
      List.getLast?_append_of_ne_nil _ (Text.splitOn_ne_nil '/' key.toList), ← Naming.lastSegment]
  rw [Naming.referenceName, hlast]

/-- A reference to a plain name stands for that name. -/
theorem PlainKey.referenceName {key : String} (h : PlainKey key) :
    Naming.referenceName (schemaPrefix ++ key) = key := by
  rw [referenceName_schemaPrefix, lastSegment_of_not_mem h.noSlash, h.withoutQuotes]

/-- Identifiers are plain. -/
theorem plainKey_of_isIdentifier {key : String} (h : isIdentifier key = true) : PlainKey key := by
  have hpart : ∀ c ∈ key.toList, isIdentifierPart c = true := by
    unfold isIdentifier isIdentifierChars at h
    split at h
    · cases h
    · rename_i c cs hlist
      obtain ⟨hstart, hrest⟩ := Bool.and_eq_true_iff.1 h
      rw [hlist]
      refine List.forall_mem_cons.2 ⟨?_, List.all_eq_true.1 hrest⟩
      simp only [isIdentifierStart, isIdentifierPart, Char.isAlphanum, Bool.or_eq_true] at hstart ⊢
      exact hstart.imp_left fun h => h.imp_left Or.inl
  refine ⟨fun hslash => absurd (hpart '/' hslash) (by decide), fun c hc => ?_⟩
  cases hq : Naming.isQuote c with
  | false => rfl
  | true =>
    simp only [Naming.isQuote, Bool.or_eq_true, beq_iff_eq] at hq
    rcases hq with (rfl | rfl) | rfl <;> exact absurd (hpart _ hc) (by decide)

/-! ## Schemas in a document -/

namespace Schema

/-- The second schema is written inside the first, as its items, as one of its properties, or as the
schema of its further properties. -/
inductive Part (s : Schema) : Schema → Prop where
  | items {item : Schema} (hi : s.items = some item) : Part s item
  | property {ps : List (String × Schema)} {p : String × Schema} (hps : s.properties = some ps)
      (hp : p ∈ ps) : Part s p.2
  | additional {value : Schema} (ha : s.additional = some (.schema value)) : Part s value

/-- The second schema is the first or is written inside it, at any depth. -/
abbrev Contains : Schema → Schema → Prop :=
  Relation.ReflTransGen Part

variable {s t u : Schema}

theorem Child.part (h : s.Child t) : s.Part t := by
  cases h with
  | items _ _ hi => exact .items hi
  | property _ _ hps hp => exact .property hps hp
  | additional _ _ _ ha => exact .additional ha

theorem Reaches.contains (h : s.Reaches t) : s.Contains t :=
  Relation.ReflTransGen.mono (fun _ _ => Child.part) _ _ h

theorem DeclarationReaches.contains (h : s.DeclarationReaches t) : s.Contains t := by
  cases h with
  | property _ hps hp hb => exact .head (.property hps hp) (Reaches.contains hb)
  | type _ hb => exact Reaches.contains hb

/-- Nothing is written inside a schema without items and properties. -/
theorem Contains.eq_of_leaf (h : s.Contains t) (hi : s.items = none) (hps : s.properties = none)
    (ha : s.additional = none) : t = s := by
  rcases Relation.ReflTransGen.cases_head h with rfl | ⟨c, hc, _⟩
  · rfl
  · cases hc with
    | items hi' =>
      rw [hi] at hi'
      cases hi'
    | property hps' _ =>
      rw [hps] at hps'
      cases hps'
    | additional ha' =>
      rw [ha] at ha'
      cases ha'

end Schema

namespace Document

/-- The named schemas with their names. -/
def namedSchemas (d : Document) : List (String × Schema) :=
  match d.schemas? with
  | some m => m.entries
  | none => []

/-- The schema stands in the document: as a named schema, as that of a parameter, or in the content
of a body or of a response. -/
inductive Holds (d : Document) : Schema → Prop where
  | component {e : String × Schema} (he : e ∈ d.namedSchemas) : Holds d e.2
  | namedParameter {key : String} {p : Parameter} {s : Schema}
      (hp : (key, .inline p) ∈ d.namedParameters) (hs : p.schema = some s) : Holds d s
  | sharedParameter {e : String × PathItem} {p : Parameter} {s : Schema}
      (he : e ∈ d.paths.entries) (hp : .inline p ∈ e.2.parameters) (hs : p.schema = some s) :
      Holds d s
  | parameter {e : String × PathItem} {o : Method × Operation} {p : Parameter} {s : Schema}
      (he : e ∈ d.paths.entries) (ho : o ∈ e.2.operations.entries)
      (hp : .inline p ∈ o.2.parameters) (hs : p.schema = some s) : Holds d s
  | body {e : String × PathItem} {o : Method × Operation} {b : Payload}
      {c : String × MediaType} {s : Schema} (he : e ∈ d.paths.entries)
      (ho : o ∈ e.2.operations.entries) (hb : o.2.requestBody = some b)
      (hc : c ∈ b.content.entries) (hs : c.2.schema = some s) : Holds d s
  | response {e : String × PathItem} {o : Method × Operation} {r : String × Payload}
      {c : String × MediaType} {s : Schema} (he : e ∈ d.paths.entries)
      (ho : o ∈ e.2.operations.entries) (hr : r ∈ o.2.responses.entries)
      (hc : c ∈ r.2.content.entries) (hs : c.2.schema = some s) : Holds d s

/-- Every reference in the document, at any depth, is one to a named schema whose name has no slash
and no quote. -/
def LocalReferences (d : Document) : Prop :=
  ∀ s, d.Holds s → ∀ u, s.Contains u → ∀ r, u.reference = some r →
    ∃ key ∈ Entries.keys d.namedSchemas, r = schemaPrefix ++ key ∧ PlainKey key

/-- **With local references every name is that of a named schema.** -/
theorem LocalReferences.exists_schema {d : Document} (h : d.LocalReferences) {s u : Schema}
    (hs : d.Holds s) (hu : s.Contains u) {name : String} (hrefers : u.Refers name) :
    PlainKey name ∧ ∃ schema, (name, schema) ∈ d.namedSchemas := by
  obtain ⟨r, hr, rfl⟩ := hrefers
  obtain ⟨key, hkey, rfl, hplain⟩ := h s hs u hu r hr
  obtain ⟨e, he, rfl⟩ := List.mem_map.1 hkey
  rw [hplain.referenceName]
  exact ⟨hplain, e.2, he⟩

end Document

theorem Payload.exists_of_jsonSchema? {b : Payload} {s : Schema} (h : b.jsonSchema? = some s) :
    ∃ c ∈ b.content.entries, c.2.schema = some s := by
  unfold Payload.jsonSchema? at h
  split at h
  · rename_i media hfind
    exact ⟨_, List.mem_of_find?_eq_some hfind, h⟩
  · cases h

end OpenApi

namespace Request

/-! ## Schemas that an endpoint needs -/

variable {d : Document}

/-- The parameter that an entry leads to is the entry itself, or has a name in the document. -/
theorem inline_of_parameter? {entry : ParameterEntry} {p : OpenApi.Parameter}
    (h : d.parameter? entry = some p) :
    entry = .inline p ∨ ∃ key, (key, ParameterEntry.inline p) ∈ d.namedParameters := by
  rcases (Document.parameter?_eq_some_iff.1 h).cases_tail with h | ⟨_, _, hstep⟩
  · exact Or.inl h.symm
  · cases hstep with
    | reference hnamed => exact Or.inr ⟨_, hnamed⟩

theorem exists_of_mem_placedOperations {p : PlacedOperation} (hp : p ∈ placedOperations d) :
    ∃ e ∈ d.paths.entries, ∃ o ∈ e.2.operations.entries, p = ⟨e.1, e.2, o.1, o.2⟩ := by
  obtain ⟨e, he, hp⟩ := List.mem_flatMap.1 hp
  obtain ⟨o, ho, rfl⟩ := List.mem_map.1 hp
  exact ⟨e, he, o, ho, rfl⟩

/-- The schema of a parameter of an operation stands in the document. -/
theorem holds_parameter {p : PlacedOperation} (hp : p ∈ placedOperations d)
    {q : OpenApi.Parameter}
    (hq : q ∈ mergeParameters ((entriesOf p.item p.operation).filterMap d.parameter?))
    {s : Schema} (hs : q.schema = some s) : d.Holds s := by
  obtain ⟨e, he, o, ho, rfl⟩ := exists_of_mem_placedOperations hp
  obtain ⟨entry, hentry, hparameter⟩ := List.mem_filterMap.1 (mem_of_mem_mergeParameters hq)
  rcases inline_of_parameter? hparameter with rfl | ⟨key, hnamed⟩
  · rcases List.mem_append.1 hentry with hshared | hown
    · exact .sharedParameter he hshared hs
    · exact .parameter he ho hown hs
  · exact .namedParameter hnamed hs

/-- **The schemas that an endpoint needs types for stand in the document.** -/
theorem Endpoint.holds_schemas {p : PlacedOperation} (hp : p ∈ placedOperations d) {s : Schema}
    (hs : s ∈ (p.endpoint d).schemas) : d.Holds s := by
  unfold Endpoint.schemas at hs
  simp only [List.mem_append, or_assoc] at hs
  rcases hs with hs | hs | hs | hs
  · obtain ⟨r, hr, hs⟩ := List.mem_filterMap.1 hs
    rcases mem_addPlaceholders hr with hr | hnone
    · obtain ⟨q, hq, rfl⟩ := List.mem_map.1 hr
      exact holds_parameter hp (List.mem_filter.1 hq).1 hs
    · rw [hnone] at hs
      cases hs
  · obtain ⟨r, hr, hs⟩ := List.mem_filterMap.1 hs
    obtain ⟨q, hq, rfl⟩ := List.mem_map.1 hr
    exact holds_parameter hp (List.mem_filter.1 hq).1 hs
  · obtain ⟨b, hb, hs⟩ := Option.bind_eq_some_iff.1 (Option.mem_toList.1 hs)
    obtain ⟨c, hc, hcs⟩ := Payload.exists_of_jsonSchema? hs
    obtain ⟨e, he, o, ho, rfl⟩ := exists_of_mem_placedOperations hp
    exact .body he ho hb hc hcs
  · obtain ⟨b, hb, hs⟩ := Option.bind_eq_some_iff.1 (Option.mem_toList.1 hs)
    obtain ⟨c, hc, hcs⟩ := Payload.exists_of_jsonSchema? hs
    obtain ⟨e, he, o, ho, rfl⟩ := exists_of_mem_placedOperations hp
    exact .response he ho (Entries.mem_of_find? hb) hc hcs

/-! ## Names that functions use -/

section Emitted

variable {ctx : Context} {e : Endpoint} {names names' : Names} {f : EmittedFunction}
  {t : TypeExpr} {name : String}

/-- A name in the type of an optional schema is that of a reference which is reached from it. -/
theorem exists_refers_of_typeOf {s? : Option Schema} (h : Schema.typeOf s? = .ok t)
    (hm : t.Mentions name) : ∃ s ∈ s?, ∃ u, s.Reaches u ∧ u.Refers name := by
  cases s? with
  | none =>
    cases h
    cases hm
  | some s => exact ⟨s, rfl, Schema.exists_refers h hm⟩

theorem exists_refers_of_routeTypes {rs : List RouteParameter} {ts : List TypeExpr}
    (h : e.routeTypes rs = .ok ts) (ht : t ∈ ts) (hm : t.Mentions name) :
    ∃ r ∈ rs, ∃ s ∈ r.schema, ∃ u, s.Reaches u ∧ u.Refers name := by
  induction rs generalizing ts with
  | nil =>
    cases h
    cases ht
  | cons r rs ih =>
    cases hr : e.routeType r with
    | error err =>
      rw [Endpoint.routeTypes, hr] at h
      cases h
    | ok type =>
      cases hrs : e.routeTypes rs with
      | error err =>
        rw [Endpoint.routeTypes, hr, hrs] at h
        cases h
      | ok rest =>
        rw [Endpoint.routeTypes, hr, hrs] at h
        cases h
        rcases List.mem_cons.1 ht with rfl | ht
        · unfold Endpoint.routeType at hr
          split at hr
          · cases hr
            cases hm
          · rename_i s hs
            exact ⟨r, List.mem_cons_self .., s, hs,
              Schema.exists_refers (mapError_eq_ok.1 hr) hm⟩
        · obtain ⟨r', hr', hrefers⟩ := ih hrs ht
          exact ⟨r', List.mem_cons_of_mem _ hr', hrefers⟩

/-- **A name in the types of a function is that of a reference** which is reached from a schema that
its endpoint needs. -/
theorem Emitted.exists_refers (h : Emitted ctx e names f names') (ht : t ∈ f.modelTypes)
    (hm : t.Mentions name) : ∃ s ∈ e.schemas, ∃ u, s.Reaches u ∧ u.Refers name := by
  unfold EmittedFunction.modelTypes at ht
  simp only [List.mem_append, Endpoint.schemas, or_assoc] at ht ⊢
  rcases ht with ht | ht | ht
  · obtain ⟨r, hr, s, hs, hrefers⟩ := exists_refers_of_routeTypes h.routeTypes ht hm
    exact ⟨s, Or.inl (List.mem_filterMap.2 ⟨r, hr, hs⟩), hrefers⟩
  · have hbody := h.bodyType
    unfold Endpoint.emitBody at hbody
    rw [Option.mem_toList] at ht
    split at hbody
    · rw [← Except.ok.inj hbody] at ht
      cases ht
    · rename_i b hb
      cases htype : Schema.typeOf b.jsonSchema? with
      | error err =>
        rw [htype] at hbody
        cases hbody
      | ok type =>
        rw [htype] at hbody
        rw [← Except.ok.inj hbody] at ht
        cases ht
        obtain ⟨s, hs, hrefers⟩ := exists_refers_of_typeOf htype hm
        refine ⟨s, Or.inr (Or.inr (Or.inl (Option.mem_toList.2 ?_))), hrefers⟩
        rw [hb]
        exact hs
  · obtain rfl := List.mem_singleton.1 ht
    obtain ⟨s, hs, hrefers⟩ := exists_refers_of_typeOf (mapError_eq_ok.1 h.responseType) hm
    exact ⟨s, Or.inr (Or.inr (Or.inr (Option.mem_toList.2 hs))), hrefers⟩

/-- **A name in the query type of a function is that of a reference** which is reached from the
schema of a query parameter. -/
theorem Emitted.exists_refers_of_query (h : Emitted ctx e names f names')
    (hnodup : (e.query.map QueryParameter.name).Nodup) {q : String × Statement} (hq : q ∈ f.query)
    (ht : t ∈ q.2.types) (hm : t.Mentions name) :
    ∃ s ∈ e.schemas, ∃ u, s.Reaches u ∧ u.Refers name := by
  obtain ⟨p, hp, t', ht', hm'⟩ := exists_property_of_declare (h.queryType q hq) rfl
    (Endpoint.querySchema_properties hnodup) ht hm
  obtain ⟨r, hr, rfl⟩ := List.mem_map.1 hp
  rw [Endpoint.describe_querySchemaOf] at ht'
  obtain ⟨s, hs, hrefers⟩ := exists_refers_of_typeOf ht' hm'
  refine ⟨s, ?_, hrefers⟩
  simp only [Endpoint.schemas, List.mem_append, or_assoc]
  exact Or.inr (Or.inl (List.mem_filterMap.2 ⟨r, hr, hs⟩))

end Emitted

end Request

end TypedRequests
