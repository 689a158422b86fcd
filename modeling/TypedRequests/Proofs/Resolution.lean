import TypedRequests.Proofs.Outputs
import TypedRequests.Proofs.References

/-!
# Which imports resolve

The modules of tags import names from the model module, and its declarations refer to each other.
With local references every such name is that of a named schema, but the model module has no
declaration for those that have no type.

* `exported`, `mem_exported_iff` : the names that the model module exports.
* `importedFrom`, `imported_endpointModule`, `imported_queryModule` : those that the modules of a
  tag take from it.
* `Uses`, `Uses.mem_keys` : the names that a run uses are those of named schemas.
* `Path.relativeSource_of_siblings`, `modelSource_inDir` : the source of these imports.
* `Written` : the modules of a tag are in their files.
* `resolves_unless_skipped` : every used name is exported, unless its schema has no declaration.
-/

set_option autoImplicit false

namespace TypedRequests

/-! ## Sources -/

/-- A file beside a directory is named from there by one step up. -/
theorem Path.relativeSource_of_siblings {dir p q : Path} {a b : String}
    (hp : p.parts = dir.parts ++ [.name a]) (hq : q.parts = dir.parts ++ [.name b]) (h : a ≠ b) :
    p.relativeSource q = "../" ++ b := by
  have hsteps : ∀ {r : Path} {c : String}, r.parts = dir.parts ++ [.name c] →
      r.steps = dir.steps ++ [.name c] := by
    intro r c hr
    rw [steps, hr, List.filter_append]
    rfl
  have hparting : Parting p.steps q.steps dir.steps [.name a] [.name b] :=
    ⟨hsteps hp, hsteps hq, fun x hx y hy he => by
      obtain rfl := Option.some.inj hx
      obtain rfl := Option.some.inj hy
      exact h (PathPart.name.inj he)⟩
  have htext : "/".intercalate ([PathPart.name a].map (fun _ => "..") ++
      [PathPart.name b].map PathPart.text) = "../" ++ b := by
    simp only [List.map_cons, List.map_nil, List.cons_append, List.nil_append, PathPart.text]
    rfl
  have hprefix : (Text.stripPrefix? ['.', '.'] ("../" ++ b).toList).isSome = true := by
    rw [String.toList_append]
    rfl
  unfold relativeSource
  rw [hparting.dropCommon_eq]
  simp only [htext, hprefix, if_true]

/-- Texts that are written to different files are all there. -/
theorem FileMap.find?_writeAll_of_pairwise {m : FileMap} {ws : List (Path × String)} {p : Path}
    {text : String} (h : ws.Pairwise fun v w => v.1.parts ≠ w.1.parts) (hw : (p, text) ∈ ws) :
    (m.writeAll ws).find? p = some text := by
  obtain ⟨before, after, rfl⟩ := List.append_of_mem hw
  refine find?_writeAll_of_last rfl rfl fun w hafter he => ?_
  exact (List.pairwise_cons.1 (List.pairwise_append.1 h).2.1).1 w hafter he.symm

namespace Request

open OpenApi TypeScript

variable {d : Document} {ctx : Context} {layout : OutputLayout} {dir : Path}

theorem parts_model_inDir (dir : Path) :
    (OutputLayout.inDir dir none).model.parts = dir.parts ++ [.name "model.ts"] :=
  Path.parts_join dir plainName_model

/-- **The modules of tags import from the file one step up.** -/
theorem modelSource_inDir (ctx : Context) (dir : Path) (tag : String) :
    modelSource ctx (.inDir dir none) tag = ctx.importStyle.source "../model.ts" := by
  have htag : Naming.tagDirectory tag ≠ "model.ts" := by
    intro he
    have hchars := (Naming.tagDirectory_spec tag).2 '.'
    rw [he] at hchars
    exact absurd (hchars (by decide)) (by decide)
  have hdir : (tagDir (.inDir dir none) tag).parts =
      dir.parts ++ [.name (Naming.tagDirectory tag)] :=
    Path.parts_join dir (Naming.plainName_tagDirectory tag)
  rw [modelSource, Path.relativeSource_of_siblings hdir (parts_model_inDir dir) htag]
  rfl

/-! ## Exported and imported names -/

/-- The names that the module of named schemas exports, if there is one. -/
def exported (d : Document) : List String :=
  match modelModule? d with
  | some (_, module) => module.filterMap Statement.declaredName?
  | none => []

/-- The names that a module imports from a source. -/
def importedFrom (source : String) (m : Module) : List String :=
  m.flatMap fun
    | .importNames i => if i.source = source then i.names else []
    | _ => []

theorem declaredNames_of_forall₂ {es : List (String × Schema)} {module : Module}
    (h : List.Forall₂ (fun e s => declare e.1 e.2 = .ok s) es module) :
    module.filterMap Statement.declaredName? = es.map fun e => Naming.withoutQuotes e.1 := by
  induction h with
  | nil => rfl
  | cons hd _ ih => rw [List.filterMap_cons_some (declaredName_declare hd), ih, List.map_cons]

/-- **The model module exports the named schemas that have a declaration**, in order. -/
theorem exported_eq (d : Document) :
    exported d = (d.namedSchemas.filter fun e => ¬ e.2.DeclarationReachesBroken).map fun e =>
      Naming.withoutQuotes e.1 := by
  unfold exported modelModule? Document.namedSchemas
  cases d.schemas? with
  | none => rfl
  | some schemas => exact declaredNames_of_forall₂ (declareAll_spec schemas.entries).1

theorem mem_exported_iff {name : String} :
    name ∈ exported d ↔ ∃ e ∈ d.namedSchemas,
      ¬ e.2.DeclarationReachesBroken ∧ Naming.withoutQuotes e.1 = name := by
  rw [exported_eq]
  simp [and_assoc]

theorem importedFrom_append (source : String) (m m' : Module) :
    importedFrom source (m ++ m') = importedFrom source m ++ importedFrom source m' :=
  List.flatMap_append

theorem importedFrom_importOf (style : ImportStyle) (names : List String)
    (source source' : String) :
    importedFrom source' (importOf style names source) =
      if source = source' then names else [] := by
  rw [importOf_eq]
  by_cases hnames : names = []
  · simp [hnames, importedFrom]
  · simp [hnames, importedFrom]

theorem importedFrom_of_declares {source : String} {m : Module}
    (h : ∀ s ∈ m, s.declaredName?.isSome = true) : importedFrom source m = [] := by
  refine List.flatMap_eq_nil_iff.2 fun s hs => ?_
  cases s with
  | importNames i => exact absurd (h _ hs) (by simp [Statement.declaredName?])
  | _ => rfl

/-- The endpoint module imports the names that its functions need from the model module. -/
theorem imported_endpointModule (ctx : Context) (dir : Path) (tag : String)
    (fs : List EmittedFunction) :
    importedFrom (ctx.importStyle.source "../model.ts")
      (endpointModule ctx (.inDir dir none) tag fs) = modelImportsOf ctx fs := by
  have hquery : ctx.importStyle.source querySource ≠ ctx.importStyle.source "../model.ts" := by
    unfold ImportStyle.source
    split <;> decide
  unfold endpointModule
  rw [importedFrom_append, importedFrom_append, importedFrom_importOf, importedFrom_importOf,
    if_neg hquery, modelSource_inDir, if_pos rfl, List.nil_append,
    importedFrom_of_declares, List.append_nil]
  intro s hs
  obtain ⟨f, _, rfl⟩ := List.mem_map.1 hs
  rfl

theorem exists_of_mem_queryStatements {fs : List EmittedFunction} {s : Statement}
    (hs : s ∈ queryStatements fs) : ∃ f ∈ fs, ∃ q ∈ f.query, s = q.2 := by
  obtain ⟨q, hq, rfl⟩ := List.mem_map.1 hs
  obtain ⟨f, hf, hfq⟩ := List.mem_filterMap.1 hq
  exact ⟨f, hf, q, hfq, rfl⟩

/-- The query module imports the names that its declarations need from the model module. -/
theorem imported_queryModule {fs : List EmittedFunction}
    (h : ∀ s ∈ queryStatements fs, s.declaredName?.isSome = true) (ctx : Context) (dir : Path)
    (tag : String) :
    importedFrom (ctx.importStyle.source "../model.ts") (queryModule ctx (.inDir dir none) tag fs) =
      queryImportsOf ctx fs := by
  rw [(queryImports ctx (.inDir dir none) tag fs).module, ← importOf_eq, importedFrom_append,
    importedFrom_importOf, modelSource_inDir, if_pos rfl, importedFrom_of_declares h,
    List.append_nil]

/-! ## Used names -/

/-- The functions of tags, each with its tag. -/
abbrev Tags := List (String × List EmittedFunction)

/-- The functions are those of the modules of a document. -/
def TagsOf (d : Document) (ctx : Context) (tags : Tags) : Prop :=
  ∃ modules, (extract d ctx).result = .ok modules ∧ ∀ t ∈ tags, ∃ m ∈ modules, t.1 = m.name ∧
    Emits ctx (Names.ofModelTypes (modelTypeNames d)) m.endpoints t.2

/-- The name is imported from the model module, or occurs in it. -/
inductive Uses (d : Document) (ctx : Context) (dir : Path) (tags : Tags) (name : String) :
    Prop where
  | endpoint {t : String × List EmittedFunction} (ht : t ∈ tags)
      (h : name ∈ importedFrom (ctx.importStyle.source "../model.ts")
        (endpointModule ctx (.inDir dir none) t.1 t.2))
  | query {t : String × List EmittedFunction} (ht : t ∈ tags)
      (h : name ∈ importedFrom (ctx.importStyle.source "../model.ts")
        (queryModule ctx (.inDir dir none) t.1 t.2))
  | model {notices : List Notice} {module : Module} {s : Statement}
      (hm : modelModule? d = some (notices, module)) (hs : s ∈ module) (h : name ∈ s.references)

/-- Every statement of the model module declares a named schema. -/
theorem exists_schema_of_mem {notices : List Notice} {module : Module} {s : Statement}
    (hm : modelModule? d = some (notices, module)) (hs : s ∈ module) :
    ∃ e ∈ d.namedSchemas, declare e.1 e.2 = .ok s := by
  unfold modelModule? at hm
  unfold Document.namedSchemas
  obtain ⟨schemas, hschemas, hmodule⟩ := Option.map_eq_some_iff.1 hm
  rw [hschemas]
  have hsnd : (declareAll schemas.entries).2 = module := congrArg Prod.snd hmodule
  exact exists_of_mem_declareAll (hsnd ▸ hs)

theorem mem_references_iff {name : String} {s : Statement} :
    name ∈ s.references ↔ ∃ t ∈ s.types, t.Mentions name := by
  simp only [Statement.references, List.mem_eraseDups, List.mem_flatMap, TypeExpr.mem_names_iff]

/-- A function of a tag is emitted from an operation of the document. -/
theorem TagsOf.exists_operation {tags : Tags} (h : TagsOf d ctx tags)
    {t : String × List EmittedFunction} (ht : t ∈ tags) {f : EmittedFunction} (hf : f ∈ t.2) :
    ∃ p ∈ placedOperations d, ∃ before after, Emitted ctx (p.endpoint d) before f after := by
  obtain ⟨modules, hmodules, htags⟩ := h
  obtain ⟨m, hm, _, hemits⟩ := htags t ht
  obtain ⟨e, he, before, after, hemitted⟩ := hemits.exists_emitted hf
  obtain ⟨p, hp, rfl⟩ := exists_operation_of_extract hmodules hm he
  exact ⟨p, hp, before, after, hemitted⟩

theorem TagsOf.declares {tags : Tags} (h : TagsOf d ctx tags)
    {t : String × List EmittedFunction} (ht : t ∈ tags) {s : Statement}
    (hs : s ∈ queryStatements t.2) : s.declaredName?.isSome = true := by
  obtain ⟨f, hf, q, hq, rfl⟩ := exists_of_mem_queryStatements hs
  obtain ⟨p, _, before, after, hemitted⟩ := h.exists_operation ht hf
  rw [declaredName_declare (hemitted.queryType q hq)]
  rfl

/-- **With local references every used name is that of a named schema.** -/
theorem Uses.exists_schema {tags : Tags} {name : String} (hrefs : d.LocalReferences)
    (htags : TagsOf d ctx tags) (h : Uses d ctx dir tags name) :
    PlainKey name ∧ ∃ schema, (name, schema) ∈ d.namedSchemas := by
  cases h with
  | endpoint ht hname =>
    rw [imported_endpointModule, (firstUses_modelImportsOf ctx _).mem, mem_neededNames_iff] at hname
    obtain ⟨⟨f, hf, type, htype, hmentions⟩, _⟩ := hname
    obtain ⟨p, hp, before, after, hemitted⟩ := htags.exists_operation ht hf
    obtain ⟨s, hs, u, hu, hrefers⟩ := hemitted.exists_refers htype hmentions
    exact hrefs.exists_schema (Endpoint.holds_schemas hp hs) (Schema.Reaches.contains hu) hrefers
  | query ht hname =>
    rw [imported_queryModule fun s hs => htags.declares ht hs, (firstUses_queryImportsOf ctx _).mem,
      mem_neededNames_iff] at hname
    obtain ⟨⟨st, hst, type, htype, hmentions⟩, _⟩ := hname
    obtain ⟨f, hf, q, hq, rfl⟩ := exists_of_mem_queryStatements hst
    obtain ⟨p, hp, before, after, hemitted⟩ := htags.exists_operation ht hf
    have hnodup := Endpoint.nodup_queryNames d p.path p.method p.item p.operation
    obtain ⟨s, hs, u, hu, hrefers⟩ := hemitted.exists_refers_of_query hnodup hq htype hmentions
    exact hrefs.exists_schema (Endpoint.holds_schemas hp hs) (Schema.Reaches.contains hu) hrefers
  | model hm hs hname =>
    obtain ⟨e, he, hdeclare⟩ := exists_schema_of_mem hm hs
    obtain ⟨type, htype, hmentions⟩ := mem_references_iff.1 hname
    obtain ⟨u, hu, hrefers⟩ := exists_refers_of_declare hdeclare htype hmentions
    exact hrefs.exists_schema (.component he) hu.contains hrefers

/-! ## Written modules -/

/-- The modules of a tag are in their files. -/
structure Written (ctx : Context) (layout : OutputLayout) (files : FileMap) (tag : String)
    (fs : List EmittedFunction) : Prop where
  endpoint : ∃ text, endpointText ctx (endpointModule ctx layout tag fs) = .ok text ∧
    files.find? ((tagDir layout tag).join endpointFile) = some text
  query : queryModule ctx layout tag fs ≠ [] →
    files.find? ((tagDir layout tag).join queryFile) =
      some (Module.text (queryModule ctx layout tag fs))

/-- The plans of modules are those of the functions of tags. -/
theorem PlansOf.exists_tags {modelTypes : List String} {modules : List TagModule}
    {plans : List TagPlan} (h : PlansOf ctx layout modelTypes modules plans) :
    ∃ tags : Tags, plans = tags.map (fun t => planOf ctx layout t.1 t.2) ∧
      ∀ t ∈ tags, ∃ m ∈ modules, t.1 = m.name ∧
        Emits ctx (Names.ofModelTypes modelTypes) m.endpoints t.2 := by
  induction h with
  | nil => exact ⟨[], rfl, nofun⟩
  | @planned m _ _ _ hm _ ih =>
    obtain ⟨tags, rfl, htags⟩ := ih
    obtain ⟨fs, hfs, _, rfl⟩ := plan_eq_some_iff.1 hm
    refine ⟨(m.name, fs) :: tags, rfl, List.forall_mem_cons.2 ⟨?_, fun t ht => ?_⟩⟩
    · exact ⟨m, List.mem_cons_self .., rfl, hfs⟩
    · obtain ⟨m', hm', hemits⟩ := htags t ht
      exact ⟨m', List.mem_cons_of_mem _ hm', hemits⟩
  | skipped _ _ ih =>
    obtain ⟨tags, rfl, htags⟩ := ih
    refine ⟨tags, rfl, fun t ht => ?_⟩
    obtain ⟨m', hm', hemits⟩ := htags t ht
    exact ⟨m', List.mem_cons_of_mem _ hm', hemits⟩

/-- In the default layout the model module is no file of a tag. -/
theorem separate_inDir (dir : Path) {report : Report}
    (hdirs : (report.tags.map fun t => Naming.tagDirectory t.tag).Nodup) :
    Separate (.inDir dir none) report := by
  have hmodel : ∀ tag file,
      (OutputLayout.inDir dir none).model.parts ≠ tagFile (.inDir dir none) tag file := by
    intro tag file he
    rw [parts_model_inDir, tagFile] at he
    simpa [OutputLayout.inDir] using congrArg List.length he
  exact ⟨hdirs, fun _ t _ => hmodel t.tag _, fun _ t _ _ => hmodel t.tag _⟩

/-- A planned module is in its file after texts that are written to different files. -/
theorem written_of_mem {t : String × List EmittedFunction} {ws : List (Path × String)}
    {files : FileMap} {text : String}
    (hws : ws.Pairwise fun v w => v.1.parts ≠ w.1.parts)
    (ht : ∀ w ∈ (planOf ctx layout t.1 t.2).writes, w ∈ ws)
    (htext : (planOf ctx layout t.1 t.2).endpoint = .ok text) :
    Written ctx layout (files.writeAll ws) t.1 t.2 := by
  have htext' : endpointText ctx (endpointModule ctx layout t.1 t.2) = .ok text := htext
  refine ⟨⟨text, htext', FileMap.find?_writeAll_of_pairwise hws (ht _ ?_)⟩,
    fun hquery => FileMap.find?_writeAll_of_pairwise hws (ht _ ?_)⟩
  · simp [TagPlan.writes, planOf, htext']
  · simp [TagPlan.writes, planOf, hquery]

/-- **Every import resolves unless its schema is skipped.** With local references, in the default
layout, and with a directory for each tag, all modules of a run are in their files. The names that
they import from the model module, and those that occur in it, are names of schemas. They are
exported unless all schemas of the name reach an array without items. -/
theorem resolves_unless_skipped {files files' : FileMap} {o : Outcome Report} {report : Report}
    (hrefs : d.LocalReferences)
    (h : generate d ctx (.inDir dir none) (FileMap.writer []) files = (o, files'))
    (ho : o.result = .ok report)
    (hdirs : (report.tags.map fun t => Naming.tagDirectory t.tag).Nodup) :
    ∃ tags, TagsOf d ctx tags ∧ report.tags.map TagOutput.tag = tags.map Prod.fst ∧
      (∀ t ∈ tags, Written ctx (.inDir dir none) files' t.1 t.2) ∧
      (∀ notices module, modelModule? d = some (notices, module) →
        files'.find? (OutputLayout.inDir dir none).model = some (Module.text module)) ∧
      (∀ name, Uses d ctx dir tags name → (∃ schema, (name, schema) ∈ d.namedSchemas) ∧
        (name ∈ exported d ↔ ∃ e ∈ d.namedSchemas,
          ¬ e.2.DeclarationReachesBroken ∧ Naming.withoutQuotes e.1 = name)) ∧
      ((∀ e ∈ d.namedSchemas, ¬ e.2.DeclarationReachesBroken) →
        ∀ name, Uses d ctx dir tags name → name ∈ exported d) := by
  obtain ⟨modules, plans, hmodules, hplans, htexts, hreport, rfl⟩ := generate_ok h ho
  obtain ⟨tags, rfl, htags⟩ := hplans.exists_tags
  have hof : TagsOf d ctx tags := ⟨modules, hmodules, htags⟩
  have hws : (runWrites d (.inDir dir none)
      (tags.map fun t => planOf ctx (.inDir dir none) t.1 t.2)).Pairwise
        fun v w => v.1.parts ≠ w.1.parts := by
    have hdistinct := hplans.placed.pairwise_iff.2 (hreport ▸ separate_inDir dir hdirs)
    rw [← map_fst_writes d _ htexts, List.pairwise_map] at hdistinct
    exact hdistinct
  refine ⟨tags, hof, ?_, fun t ht => ?_, fun notices module hm => ?_, fun name hname => ?_,
    fun hnone name hname => ?_⟩
  · rw [hreport, List.map_map, List.map_map]
    rfl
  · have hplan := List.mem_map_of_mem (f := fun t => planOf ctx (.inDir dir none) t.1 t.2) ht
    obtain ⟨text, htext⟩ := htexts _ hplan
    exact written_of_mem hws (fun w hw => List.mem_append_right _
      (List.mem_flatMap.2 ⟨_, hplan, hw⟩)) htext
  · refine FileMap.find?_writeAll_of_pairwise hws (List.mem_append_left _ ?_)
    rw [modelWrites, hm]
    exact List.mem_singleton.2 rfl
  · exact ⟨(hname.exists_schema hrefs hof).2, mem_exported_iff⟩
  · obtain ⟨hplain, schema, hschema⟩ := hname.exists_schema hrefs hof
    exact mem_exported_iff.2 ⟨_, hschema, hnone _ hschema, hplain.withoutQuotes⟩

/-! ## A named schema that is used -/

/-- A reference to a named schema. -/
def namesReference : Schema :=
  { Schema.empty with reference := some (schemaPrefix ++ "Names") }

/-- A named schema with a reference to another one. -/
def petSchema : Schema :=
  { Schema.empty with
    type := some (.single "object")
    properties := some [("names", namesReference)] }

/-- A document with a named schema that an operation and another named schema refer to. -/
def namesDocument (names : Schema) : Document :=
  let operation : Operation := ⟨["pets"], none, none, [], none,
    .ofPairs [("200", ⟨none, .ofPairs [("application/json", ⟨some namesReference⟩)]⟩)]⟩
  { Document.empty with
    paths := .ofPairs [("/pets", ⟨.ofPairs [(.get, operation)], []⟩)]
    components := some ⟨some (.ofPairs [("Names", names), ("Pet", petSchema)]), .empty⟩ }

theorem namedSchemas_namesDocument (names : Schema) :
    (namesDocument names).namedSchemas = [("Names", names), ("Pet", petSchema)] := rfl

theorem holds_namesDocument {names s : Schema} (h : (namesDocument names).Holds s) :
    s = names ∨ s = petSchema ∨ s = namesReference := by
  cases h with
  | component he =>
    rw [namedSchemas_namesDocument] at he
    rcases List.mem_cons.1 he with rfl | he
    · exact Or.inl rfl
    · exact Or.inr (Or.inl (congrArg Prod.snd (List.mem_singleton.1 he)))
  | namedParameter hp _ => cases hp
  | sharedParameter he hp _ =>
    obtain rfl := List.mem_singleton.1 he
    cases hp
  | parameter he ho hp _ =>
    obtain rfl := List.mem_singleton.1 he
    obtain rfl := List.mem_singleton.1 ho
    cases hp
  | body he ho hb _ _ =>
    obtain rfl := List.mem_singleton.1 he
    obtain rfl := List.mem_singleton.1 ho
    cases hb
  | response he ho hr hc hs =>
    obtain rfl := List.mem_singleton.1 he
    obtain rfl := List.mem_singleton.1 ho
    obtain rfl := List.mem_singleton.1 hr
    obtain rfl := List.mem_singleton.1 hc
    exact Or.inr (Or.inr (Option.some.inj hs).symm)

theorem contains_namesReference {u : Schema} (h : namesReference.Contains u) :
    u = namesReference :=
  h.eq_of_leaf rfl rfl rfl

theorem contains_petSchema {u : Schema} (h : petSchema.Contains u) :
    u = petSchema ∨ u = namesReference := by
  rcases Relation.ReflTransGen.cases_head h with rfl | ⟨c, hc, hu⟩
  · exact Or.inl rfl
  · cases hc with
    | items hi => cases hi
    | property hps hp =>
      cases hps
      obtain rfl := List.mem_singleton.1 hp
      exact Or.inr (contains_namesReference hu)
    | additional ha => cases ha

/-- The references of the document are local if the named schema has none. -/
theorem localReferences_namesDocument {names : Schema}
    (h : ∀ u, names.Contains u → u.reference = none) : (namesDocument names).LocalReferences := by
  have hreference : ∀ r, namesReference.reference = some r →
      ∃ key ∈ Entries.keys (namesDocument names).namedSchemas,
        r = schemaPrefix ++ key ∧ PlainKey key := by
    intro r hr
    cases hr
    exact ⟨"Names", List.mem_cons_self .., rfl, plainKey_of_isIdentifier (by decide)⟩
  intro s hs u hu r hr
  rcases holds_namesDocument hs with rfl | rfl | rfl
  · rw [h u hu] at hr
    cases hr
  · rcases contains_petSchema hu with rfl | rfl
    · cases hr
    · exact hreference r hr
  · obtain rfl := contains_namesReference hu
    exact hreference r hr

/-- The settings of the run. -/
def namesContext : Context :=
  .ofTemplate fun call => .ok call.url

/-- A run on that document, from no files. -/
def runNames (names : Schema) : Outcome Report × FileMap :=
  generate (namesDocument names) namesContext (.inDir ⟨"api"⟩ none) (FileMap.writer []) .empty

/-- What is reported on that run. -/
def namesReport : Report :=
  ⟨some ⟨"api/model.ts"⟩, [⟨"pets", ⟨"api/pets/index.ts"⟩, none, 1⟩]⟩

/-- A schema with a type. -/
def textSchema : Schema :=
  { Schema.empty with type := some (.single "string") }

/-- An array without items. -/
def brokenArray : Schema :=
  { Schema.empty with type := some (.single "array") }

/-- If the named schema has a type, every import resolves. -/
theorem resolves_names :
    (namesDocument textSchema).LocalReferences ∧
    (runNames textSchema).1.result = .ok namesReport ∧
    ∃ tags, TagsOf (namesDocument textSchema) namesContext tags ∧
      tags.map Prod.fst = ["pets"] ∧
      (∀ t ∈ tags, Written namesContext (.inDir ⟨"api"⟩ none) (runNames textSchema).2 t.1 t.2) ∧
      ∀ name, Uses (namesDocument textSchema) namesContext ⟨"api"⟩ tags name →
        name ∈ exported (namesDocument textSchema) := by
  have hrefs : (namesDocument textSchema).LocalReferences :=
    localReferences_namesDocument fun u hu => (hu.eq_of_leaf rfl rfl rfl) ▸ rfl
  have hresult : (runNames textSchema).1.result = .ok namesReport :=
    eq_ok_of_toOption (by decide +kernel)
  have hrun : generate (namesDocument textSchema) namesContext (.inDir ⟨"api"⟩ none)
      (FileMap.writer []) .empty = ((runNames textSchema).1, (runNames textSchema).2) := rfl
  have hnone : ∀ e ∈ (namesDocument textSchema).namedSchemas,
      ¬ e.2.DeclarationReachesBroken := by decide +kernel
  obtain ⟨tags, hof, htags, hwritten, _, _, hresolves⟩ :=
    resolves_unless_skipped hrefs hrun hresult (by decide +kernel)
  exact ⟨hrefs, hresult, tags, hof, htags.symm, hwritten, hresolves hnone⟩

/-- If it has none, it is imported by the module of the tag, and occurs in the model module, which
does not declare it. -/
theorem import_without_export :
    (namesDocument brokenArray).LocalReferences ∧
    (runNames brokenArray).1.result = .ok namesReport ∧
    (namesReport.tags.map fun t => Naming.tagDirectory t.tag).Nodup ∧
    (∃ tags, TagsOf (namesDocument brokenArray) namesContext tags ∧
      Uses (namesDocument brokenArray) namesContext ⟨"api"⟩ tags "Names") ∧
    exported (namesDocument brokenArray) = ["Pet"] ∧
    (runNames brokenArray).2 = ⟨[
      (⟨"api/model.ts"⟩, "export interface Pet \x7b\n  names: Names;\n\x7d\n"),
      (⟨"api/pets/index.ts"⟩, "import \x7b Names \x7d from \"../model\";\n\n" ++
        "export function getPets() \x7b\n  return \"/pets\";\n\x7d\n")]⟩ := by
  refine ⟨localReferences_namesDocument fun u hu => (hu.eq_of_leaf rfl rfl rfl) ▸ rfl,
    eq_ok_of_toOption (by decide +kernel), by decide +kernel, ?_, by decide +kernel,
    by decide +kernel⟩
  have hused : ((extract (namesDocument brokenArray) namesContext).result.toOption.any
      fun modules => modules.any fun m =>
        (emitFunctions namesContext m.name
          (Names.ofModelTypes (modelTypeNames (namesDocument brokenArray)))
          m.endpoints).result.toOption.any fun fs =>
            (importedFrom (namesContext.importStyle.source "../model.ts")
              (endpointModule namesContext (.inDir ⟨"api"⟩ none) m.name fs)).contains "Names") =
      true := by decide +kernel
  obtain ⟨modules, hmodules, hused⟩ := (Option.any_eq_true _ _).1 hused
  obtain ⟨m, hm, hused⟩ := List.any_eq_true.1 hused
  obtain ⟨fs, hfs, hname⟩ := (Option.any_eq_true _ _).1 hused
  have hemits := (emits_iff m.name).1 (eq_ok_of_toOption hfs)
  refine ⟨[(m.name, fs)], ⟨modules, eq_ok_of_toOption hmodules, fun t ht => ?_⟩,
    .endpoint (List.mem_singleton.2 rfl) (List.contains_iff_mem.1 hname)⟩
  obtain rfl := List.mem_singleton.1 ht
  exact ⟨m, hm, rfl, hemits⟩

end Request

end TypedRequests
