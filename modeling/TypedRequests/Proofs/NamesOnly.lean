import TypedRequests.Proofs.ClaimedNames
import TypedRequests.Proofs.DeclaredTypes
import TypedRequests.Proofs.Footprints

/-!
# The modules of tags and the named schemas

A reference to a named schema is never followed: the modules of tags depend on the named schemas of
a document only through the set of their names.

* `Document.SameNames` : documents that differ at most in what their named schemas are.
* `extract_congr`, `plan_congr`, `writeTags_congr` : they have the same operations, the same plans
  and the same modules of tags, whatever the writer is.
* `result_runAnswer_congr`, `effectAll_outputChanges_congr` : runs on them answer the same and leave
  the same files, but for the model module.
* `SameTags`, `same_tags` : they report the same and leave the same modules of tags.
-/

set_option autoImplicit false

namespace TypedRequests

/-! ## Documents with the same names -/

namespace OpenApi.Document

variable {d d' : Document}

/-- The documents have the same paths, tags and named parameters, and named schemas of the same
names. -/
structure SameNames (d d' : Document) : Prop where
  paths : d.paths = d'.paths
  tags : d.tags = d'.tags
  parameters : d.namedParameters = d'.namedParameters
  names : ∀ name, name ∈ Entries.keys d.namedSchemas ↔ name ∈ Entries.keys d'.namedSchemas

theorem search_congr (h : d.namedParameters = d'.namedParameters) (followed : List String)
    (entry : ParameterEntry) : d.search followed entry = d'.search followed entry := by
  have htarget : ∀ r, d'.target? r = d.target? r := fun r => by rw [target?, target?, h]
  fun_induction d.search followed entry with
  | case1 => rw [search]
  | case2 => rw [search]
  | case3 followed r hseen => rw [search_reference, if_pos hseen]
  | case4 followed r hnew hnone => rw [search_reference, if_neg hnew, htarget, hnone]
  | case5 followed r hnew entry hsome ih =>
    rw [search_reference, if_neg hnew, htarget, hsome]
    exact ih

/-- Which parameter an entry stands for depends on the named parameters only. -/
theorem parameter?_congr (h : d.namedParameters = d'.namedParameters) :
    d.parameter? = d'.parameter? := by
  funext entry
  rw [parameter?, parameter?, search_congr h]

theorem SameNames.namedSchemas_eq_nil_iff (h : d.SameNames d') :
    d.namedSchemas = [] ↔ d'.namedSchemas = [] := by
  rw [← List.map_eq_nil_iff (f := Prod.fst), ← List.map_eq_nil_iff (f := Prod.fst),
    List.eq_nil_iff_forall_not_mem, List.eq_nil_iff_forall_not_mem]
  exact forall_congr' fun name => not_congr (h.names name)

end OpenApi.Document

namespace Request

open OpenApi FileMap

variable {d d' : Document} {ctx : Context} {layout : OutputLayout} {r : Refusals}

/-! ## The modules of tags -/

/-- **The documents have the same operations**, with the same parameters. -/
theorem extract_congr (h : d.SameNames d') (ctx : Context) : extract d ctx = extract d' ctx := by
  have hparameter := Document.parameter?_congr h.parameters
  have hendpoint : PlacedOperation.endpoint d = PlacedOperation.endpoint d' := by
    funext p
    simp only [PlacedOperation.endpoint, Endpoint.ofOperation, hparameter]
  have hnotices : Endpoint.notices d = Endpoint.notices d' := by
    funext path method item o
    simp only [Endpoint.notices, hparameter]
  have hstep : Extraction.step d ctx = Extraction.step d' ctx := by
    funext x p
    simp only [Extraction.step, h.tags, hendpoint, hnotices]
  have hpaths : usablePaths d = usablePaths d' := by rw [usablePaths, usablePaths, h.paths]
  have hoperations : selectedOperations d ctx = selectedOperations d' ctx := by
    rw [selectedOperations, selectedOperations, hpaths]
  have hstart : Extraction.start d = Extraction.start d' := by
    rw [Extraction.start, Extraction.start, h.tags]
  rw [extract, extract, hpaths, hoperations, hstep, hstart]

theorem mem_modelTypeNames_congr (h : d.SameNames d') (name : String) :
    name ∈ modelTypeNames d ↔ name ∈ modelTypeNames d' := by
  have hkeys : ∀ {d : Document}, name ∈ modelTypeNames d ↔
      ∃ key ∈ Entries.keys d.namedSchemas, Naming.withoutQuotes key = name := by
    intro d
    rw [mem_modelTypeNames_iff]
    simp [Entries.keys]
  rw [hkeys, hkeys]
  exact exists_congr fun key => and_congr_left fun _ => h.names key

/-- **A tag has the same plan for model types of the same names.** -/
theorem plan_congr {types types' : List String} (h : ∀ name, name ∈ types ↔ name ∈ types')
    (m : TagModule) (ctx : Context) (layout : OutputLayout) :
    m.plan ctx layout types = m.plan ctx layout types' := by
  have hnames : (Names.ofModelTypes types').With [] [] (Names.ofModelTypes types) :=
    ⟨fun n => by simp [Names.ofModelTypes], fun n => by simp [Names.ofModelTypes, h n]⟩
  unfold TagModule.plan
  rw [emitFunctions_of_same_names m.name m.endpoints hnames]

section Writer

variable {f : Type → Type} [Monad f]

theorem assembleAll_congr {types types' : List String}
    (h : ∀ name, name ∈ types ↔ name ∈ types') (w : FileWriter f) (ms : List TagModule) :
    assembleAll ctx layout types w ms = assembleAll ctx layout types' w ms := by
  induction ms with
  | nil => rfl
  | cons m ms ih =>
    rw [assembleAll, assembleAll, ih, TagModule.assemble, TagModule.assemble, plan_congr h]

/-- **The documents have the same modules of tags**, whatever the writer is. -/
theorem writeTags_congr (h : d.SameNames d') (ctx : Context) (layout : OutputLayout)
    (w : FileWriter f) : writeTags d ctx layout w = writeTags d' ctx layout w := by
  unfold writeTags
  rw [extract_congr h]
  simp only [assembleAll_congr (mem_modelTypeNames_congr h)]

end Writer

section Refusals

theorem answer_congr {types types' : List String} (h : ∀ name, name ∈ types ↔ name ∈ types')
    (m : TagModule) : m.answer ctx layout types r = m.answer ctx layout types' r := by
  simp only [TagModule.answer, plan_congr h]

theorem changes_congr {types types' : List String} (h : ∀ name, name ∈ types ↔ name ∈ types')
    (m : TagModule) : m.changes ctx layout types r = m.changes ctx layout types' r := by
  simp only [TagModule.changes, plan_congr h]

theorem answerAll_congr {types types' : List String} (h : ∀ name, name ∈ types ↔ name ∈ types')
    (ms : List TagModule) : answerAll ctx layout types r ms = answerAll ctx layout types' r ms := by
  induction ms with
  | nil => rfl
  | cons m ms ih => rw [answerAll, answerAll, ih, answer_congr h]

theorem changesAll_congr {types types' : List String} (h : ∀ name, name ∈ types ↔ name ∈ types')
    (ms : List TagModule) :
    changesAll ctx layout types r ms = changesAll ctx layout types' r ms := by
  induction ms with
  | nil => rfl
  | cons m ms ih => rw [changesAll, changesAll, ih, answer_congr h, changes_congr h]

theorem tagsAnswer_congr (h : d.SameNames d') :
    tagsAnswer d ctx layout r = tagsAnswer d' ctx layout r := by
  simp only [tagsAnswer, extract_congr h, answerAll_congr (mem_modelTypeNames_congr h)]

theorem tagsChanges_congr (h : d.SameNames d') :
    tagsChanges d ctx layout r = tagsChanges d' ctx layout r := by
  simp only [tagsChanges, extract_congr h, changesAll_congr (mem_modelTypeNames_congr h)]

end Refusals

/-! ## Runs -/

theorem modelModule?_eq_none_iff : modelModule? d = none ↔ d.namedSchemas = [] := by
  unfold modelModule? Document.namedSchemas
  cases hd : d.schemas? with
  | none => simp
  | some schemas =>
    have hsome : schemas.isEmpty = false := by
      unfold Document.schemas? at hd
      split at hd
      · cases hd
      · simpa using (Option.filter_eq_some_iff.1 hd).2
    simpa [OrderedMap.isEmpty] using hsome

/-- The model module is reported for both documents, or for neither of them. -/
theorem result_modelAnswer_congr (h : d.SameNames d') (p : Path) :
    (modelAnswer d p r).result = (modelAnswer d' p r).result := by
  have hnone : modelModule? d = none ↔ modelModule? d' = none := by
    rw [modelModule?_eq_none_iff, modelModule?_eq_none_iff, h.namedSchemas_eq_nil_iff]
  unfold modelAnswer
  cases hd : modelModule? d with
  | none => rw [hnone.1 hd]
  | some m =>
    cases hd' : modelModule? d' with
    | none =>
      rw [hnone.2 hd'] at hd
      cases hd
    | some m' => rfl

theorem result_runAnswer_congr (h : d.SameNames d') :
    (runAnswer d ctx layout r).result = (runAnswer d' ctx layout r).result := by
  unfold runAnswer
  cases r.emptyDir layout.dir with
  | some e => rfl
  | none =>
    simp only [← result_modelAnswer_congr h, ← tagsAnswer_congr h]
    cases (modelAnswer d layout.model r).result <;> rfl

theorem runAnswer_eq_ok {report : Report} (h : (runAnswer d ctx layout r).result = .ok report) :
    r.emptyDir layout.dir = none ∧ (∃ path, (modelAnswer d layout.model r).result = .ok path) ∧
      (tagsAnswer d ctx layout r).result = .ok report.tags := by
  unfold runAnswer at h
  cases hempty : r.emptyDir layout.dir with
  | some e =>
    rw [hempty] at h
    cases h
  | none =>
    cases hmodel : (modelAnswer d layout.model r).result with
    | error e =>
      simp only [hempty, hmodel] at h
      cases h
    | ok path =>
      simp only [hempty, hmodel] at h
      obtain ⟨outputs, houtputs, rfl⟩ := Outcome.map_result_eq_ok.1 h
      exact ⟨rfl, ⟨path, rfl⟩, houtputs⟩

/-- The output but for the model module is the same. -/
theorem effectAll_outputChanges_congr (h : d.SameNames d') {q : Path}
    (hq : layout.model.parts ≠ q.parts) (text? : Option String) :
    effectAll q text? (outputChanges d ctx layout r) =
      effectAll q text? (outputChanges d' ctx layout r) := by
  have hmodel : ∀ e : Document, effectAll q text? (modelChanges e layout.model r) = text? := by
    refine fun e => effectAll_of_not_touches (fun c hc ht => ?_) text?
    obtain ⟨_, rfl, hp⟩ := (writesIn_modelChanges e layout.model r c hc).exists_of_touches ht
    exact hq hp
  rw [outputChanges, outputChanges, effectAll_append, effectAll_append, hmodel, hmodel,
    result_modelAnswer_congr h, tagsChanges_congr h]

/-- Two runs report the same and leave the same modules of tags. -/
structure SameTags (d d' : Document) (ctx : Context) (layout : OutputLayout)
    (w : FileWriter (StateM FileMap)) : Prop where
  /-- Both fail with the same error, or both report the same. -/
  result : ∀ files : FileMap,
    (generate d ctx layout w files).1.result = (generate d' ctx layout w files).1.result
  /-- The modules of tags that are reported have the same texts. -/
  texts : ∀ (files : FileMap) (report : Report),
    (generate d ctx layout w files).1.result = .ok report →
      ∀ t ∈ report.tags, ∀ p ∈ t.paths, ∃ text,
        (generate d ctx layout w files).2.find? p = some text ∧
          (generate d' ctx layout w files).2.find? p = some text
  /-- All files are the same except for the model module, however the runs end. -/
  files : ∀ (files : FileMap) (q : Path), layout.model.parts ≠ q.parts →
    (generate d ctx layout w files).2.find? q = (generate d' ctx layout w files).2.find? q

theorem sameTags_refusing (h : d.SameNames d') (ctx : Context) (layout : OutputLayout)
    (r : Refusals) : SameTags d d' ctx layout (refusing r) := by
  refine ⟨fun files => ?_, fun files report hreport t ht p hp => ?_, fun files q hq => ?_⟩
  · rw [generate_refusing, generate_refusing]
    exact result_runAnswer_congr h
  · simp only [generate_refusing] at hreport ⊢
    obtain ⟨hempty, ⟨path, hpath⟩, htags⟩ := runAnswer_eq_ok hreport
    obtain ⟨text, hput⟩ := put_mem_tagsChanges htags ht hp
    obtain ⟨text', htext'⟩ := effectAll_of_put (writesIn_tagsChanges d) hput rfl
    have hpath' : (modelAnswer d' layout.model r).result = .ok path :=
      (result_modelAnswer_congr h layout.model) ▸ hpath
    -- the text does not depend on what the model modules have left there
    have hfile : ∀ {e : Document}, (modelAnswer e layout.model r).result = .ok path →
        tagsChanges e ctx layout r = tagsChanges d ctx layout r →
          (files.applyAll (runChanges e ctx layout r)).find? p = some text' := by
      intro e he hchanges
      simp only [find?_applyAll, runChanges, hempty, outputChanges, he, hchanges]
      rw [← List.cons_append, effectAll_append]
      exact htext' _
    exact ⟨text', hfile hpath rfl, hfile hpath' (tagsChanges_congr h).symm⟩
  · simp only [generate_refusing, find?_applyAll, runChanges]
    cases r.emptyDir layout.dir with
    | some e => rfl
    | none => exact effectAll_outputChanges_congr h hq _

/-- **The modules of tags depend on named schemas only through the set of their names.** Documents
with the same names have the same modules of tags, whatever the writer is. Runs on them with files
in memory fail alike, or report the same and leave the same modules of tags, whichever paths fail. -/
theorem same_tags (h : d.SameNames d') (ctx : Context) (layout : OutputLayout) :
    (∀ (f : Type → Type) [Monad f] (w : FileWriter f),
        writeTags d ctx layout w = writeTags d' ctx layout w) ∧
      (∀ r : Refusals, SameTags d d' ctx layout (refusing r)) ∧
      ∀ failing : List Path, SameTags d d' ctx layout (FileMap.writer failing) := by
  have hruns := sameTags_refusing h ctx layout
  exact ⟨fun f _ w => writeTags_congr h ctx layout w, hruns, of_refusing hruns⟩

/-- A named schema that has a type, and one that has none: the model modules differ, the module of
the tag does not. -/
theorem same_tags_names :
    (namesDocument textSchema).SameNames (namesDocument brokenArray) ∧
      (runNames brokenArray).1.result = .ok namesReport ∧
      (∃ text, (runNames textSchema).2.find? ⟨"api/pets/index.ts"⟩ = some text ∧
        (runNames brokenArray).2.find? ⟨"api/pets/index.ts"⟩ = some text) ∧
      (runNames textSchema).2.find? ⟨"api/model.ts"⟩ ≠
        (runNames brokenArray).2.find? ⟨"api/model.ts"⟩ := by
  have hnames : (namesDocument textSchema).SameNames (namesDocument brokenArray) :=
    ⟨rfl, rfl, rfl, fun _ => Iff.rfl⟩
  have hruns := (same_tags hnames namesContext (.inDir ⟨"api"⟩ none)).2.2 []
  have hreport : (runNames textSchema).1.result = .ok namesReport :=
    eq_ok_of_toOption (by decide +kernel)
  refine ⟨hnames, (hruns.result .empty).symm.trans hreport, ?_, by decide +kernel⟩
  exact hruns.texts .empty namesReport hreport _ (List.mem_singleton.2 rfl) _
    (mem_paths.2 (Or.inr rfl))

end Request

end TypedRequests
