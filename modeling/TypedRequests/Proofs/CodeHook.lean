import TypedRequests.Proofs.HookedChanges

/-!
# The hook of code

A run with a hook of code that never fails answers as one without. The endpoint modules that are
written are those of the other run with the hook applied, and all other files are the same.

* `writtenByRun` : what a run has written when it ends or fails.
* `runAnswer_hooked`, `tagsChanges_hooked` : the answer and the changes of a run with the hook.
* `exists_text_of_written` : what a run has written is there afterwards.
* `PostProcessed`, `post_processed` : a run with the hook beside one without.
-/

set_option autoImplicit false

namespace TypedRequests

open FileMap

namespace Request

open OpenApi

variable {d : Document} {ctx : Context} {h : String → String} {layout : OutputLayout}
  {r : Refusals}

/-! ## Runs -/

theorem tagsAnswer_hooked (d : Document) (ctx : Context) (h : String → String)
    (layout : OutputLayout) (r : Refusals) :
    tagsAnswer d (ctx.hooked h) layout r = tagsAnswer d ctx.unhooked layout r := by
  simp only [tagsAnswer, extract_hooked, answerAll_hooked]

/-- **The modules of tags change with the hook as without**, but for the texts of endpoint
modules. -/
theorem tagsChanges_hooked (d : Document) (ctx : Context) (h : String → String)
    (layout : OutputLayout) (r : Refusals) :
    tagsChanges d (ctx.hooked h) layout r =
      (tagsChanges d ctx.unhooked layout r).map (Change.hooked h) := by
  simp only [tagsChanges, extract_hooked, changesAll_hooked]
  cases (extract d ctx.unhooked).result <;> rfl

theorem runAnswer_hooked (d : Document) (ctx : Context) (h : String → String)
    (layout : OutputLayout) (r : Refusals) :
    runAnswer d (ctx.hooked h) layout r = runAnswer d ctx.unhooked layout r := by
  simp only [runAnswer, tagsAnswer_hooked]

/-- What a run has written for tags when it is done, or when it fails. -/
def writtenTagsOf (d : Document) (ctx : Context) (layout : OutputLayout) (r : Refusals) :
    List TagOutput :=
  match (extract d ctx).result with
  | .error _ => []
  | .ok modules => writtenTags ctx layout (modelTypeNames d) r modules

/-- What a run has written when it is done, or when it fails. -/
def writtenByRun (d : Document) (ctx : Context) (layout : OutputLayout) (r : Refusals) : Report :=
  match r.emptyDir layout.dir, (modelAnswer d layout.model r).result with
  | none, .ok path => ⟨path, writtenTagsOf d ctx layout r⟩
  | _, _ => ⟨none, []⟩

/-- What is reported on a run is what it has written. -/
theorem writtenByRun_of_ok {report : Report}
    (hreport : (runAnswer d ctx layout r).result = .ok report) :
    writtenByRun d ctx layout r = report := by
  unfold runAnswer at hreport
  unfold writtenByRun
  cases hempty : r.emptyDir layout.dir with
  | some e =>
    rw [hempty] at hreport
    cases hreport
  | none =>
    cases hmodel : (modelAnswer d layout.model r).result with
    | error e =>
      simp only [hempty, hmodel] at hreport
      cases hreport
    | ok path =>
      simp only [hempty, hmodel, Outcome.after] at hreport
      obtain ⟨outputs, houtputs, rfl⟩ := Outcome.map_result_eq_ok.1 hreport
      have htags : writtenTagsOf d ctx layout r = outputs := by
        unfold tagsAnswer at houtputs
        unfold writtenTagsOf
        cases hextract : (extract d ctx).result with
        | error e =>
          simp only [hextract] at houtputs
          cases houtputs
        | ok modules =>
          simp only [hextract] at houtputs
          exact writtenTags_of_ok houtputs
      simp only [htags]

/-- The changes of a run that is not refused at once: those before the modules of tags, which do not
depend on the settings, and those for the modules of tags. -/
theorem runChanges_eq (d : Document) (ctx : Context) (layout : OutputLayout) (r : Refusals) :
    (∃ path, r.emptyDir layout.dir = none ∧ (modelAnswer d layout.model r).result = .ok path ∧
      writtenByRun d ctx layout r = ⟨path, writtenTagsOf d ctx layout r⟩ ∧
      ∀ ctx', runChanges d ctx' layout r =
        (.erase layout.dir :: modelChanges d layout.model r) ++ tagsChanges d ctx' layout r) ∨
    writtenByRun d ctx layout r = ⟨none, []⟩ ∧
      ∀ ctx', runChanges d ctx' layout r = runChanges d ctx layout r := by
  cases hempty : r.emptyDir layout.dir with
  | some e =>
    refine Or.inr ⟨by simp only [writtenByRun, hempty], fun ctx' => ?_⟩
    simp only [runChanges, hempty]
  | none =>
    cases hmodel : (modelAnswer d layout.model r).result with
    | error e =>
      refine Or.inr ⟨by simp only [writtenByRun, hempty, hmodel], fun ctx' => ?_⟩
      simp only [runChanges, hempty, outputChanges, hmodel]
    | ok path =>
      refine Or.inl ⟨path, rfl, rfl, by simp only [writtenByRun, hempty, hmodel], fun ctx' => ?_⟩
      simp only [runChanges, hempty, outputChanges, hmodel, List.cons_append]

theorem puts_endpoint_tagsChanges_iff {q : Path} :
    (∃ c ∈ tagsChanges d ctx layout r, c.PutsEndpoint q) ↔
      ∃ t ∈ writtenTagsOf d ctx layout r, t.endpoint.parts = q.parts := by
  unfold tagsChanges writtenTagsOf
  cases (extract d ctx).result with
  | error e => simp
  | ok modules => exact puts_endpoint_changesAll_iff

theorem isEndpoint_of_writtenTagsOf {t : TagOutput} (ht : t ∈ writtenTagsOf d ctx layout r) :
    t.endpoint.IsEndpoint ∧ ∀ p ∈ t.query, ¬ p.IsEndpoint := by
  unfold writtenTagsOf at ht
  split at ht
  · cases ht
  · exact isEndpoint_of_written ht

/-- The model module that is reported on has been given a text. -/
theorem put_mem_modelChanges {p q : Path} (hmodel : (modelAnswer d p r).result = .ok (some q)) :
    ∃ text, .put q text ∈ modelChanges d p r := by
  unfold modelAnswer at hmodel
  unfold modelChanges
  cases hmodule : modelModule? d with
  | none =>
    rw [hmodule] at hmodel
    cases hmodel
  | some m =>
    rw [hmodule] at hmodel
    simp only [writtenBy] at hmodel
    cases hrefusal : r.refusal p with
    | some e =>
      rw [hrefusal] at hmodel
      cases hmodel
    | none =>
      rw [hrefusal] at hmodel
      cases hmodel
      exact ⟨_, Refusals.put_mem_changes hrefusal _⟩

/-- So have the files of the tags that have been written. -/
theorem put_mem_of_writtenTagsOf {t : TagOutput} (ht : t ∈ writtenTagsOf d ctx layout r)
    {p : Path} (hp : p ∈ t.paths) : ∃ text, .put p text ∈ tagsChanges d ctx layout r := by
  unfold writtenTagsOf at ht
  unfold tagsChanges
  cases hextract : (extract d ctx).result with
  | error e =>
    simp only [hextract] at ht
    cases ht
  | ok modules =>
    simp only [hextract] at ht
    exact put_mem_of_written ht hp

/-- **What a run has written is there afterwards.** -/
theorem exists_text_of_written {p : Path} (hp : p ∈ (writtenByRun d ctx layout r).paths)
    (files : FileMap) :
    ∃ text, (generate d ctx layout (refusing r) files).2.find? p = some text := by
  rcases runChanges_eq d ctx layout r with ⟨path, -, hmodel, hwritten, hchanges⟩ | ⟨hnothing, -⟩
  · have hwrites : ∀ c ∈ modelChanges d layout.model r ++ tagsChanges d ctx layout r,
        c.WritesIn fun _ => True := by
      intro c hc
      rcases List.mem_append.1 hc with hc | hc
      · exact (writesIn_modelChanges d layout.model r c hc).mono fun _ _ => trivial
      · exact (writesIn_tagsChanges d c hc).mono fun _ _ => trivial
    have hput : ∃ text, .put p text ∈
        modelChanges d layout.model r ++ tagsChanges d ctx layout r := by
      rw [hwritten] at hp
      rcases List.mem_append.1 hp with hp | hp
      · obtain rfl : path = some p := Option.mem_toList.1 hp
        obtain ⟨text, htext⟩ := put_mem_modelChanges hmodel
        exact ⟨text, List.mem_append_left _ htext⟩
      · obtain ⟨t, ht, hp⟩ := List.mem_flatMap.1 hp
        obtain ⟨text, htext⟩ := put_mem_of_writtenTagsOf ht hp
        exact ⟨text, List.mem_append_right _ htext⟩
    obtain ⟨text, htext⟩ := hput
    obtain ⟨text', htext'⟩ := effectAll_of_put hwrites htext rfl
    refine ⟨text', ?_⟩
    rw [generate_refusing, find?_applyAll, hchanges, List.cons_append]
    exact htext' _
  · rw [hnothing] at hp
    cases hp

/-! ## Two runs -/

/-- A run with the hook `h` beside one without. What the latter has written, when it is done or when
it fails, is `written`. -/
structure PostProcessed (d : Document) (ctx : Context) (h : String → String)
    (layout : OutputLayout) (w : FileWriter (StateM FileMap)) (written : Report) : Prop where
  /-- The runs end alike and say the same. -/
  outcome : ∀ files : FileMap,
    (generate d (ctx.hooked h) layout w files).1 = (generate d ctx.unhooked layout w files).1
  /-- If they end well, all that is written is reported. -/
  report : ∀ (files : FileMap) (report : Report),
    (generate d ctx.unhooked layout w files).1.result = .ok report → report = written
  /-- The hook is applied to every endpoint module, once. -/
  endpoints : ∀ files : FileMap, ∀ t ∈ written.tags, ∃ text,
    (generate d ctx.unhooked layout w files).2.find? t.endpoint = some text ∧
      (generate d (ctx.hooked h) layout w files).2.find? t.endpoint = some (h text)
  /-- The query modules are the same. -/
  queries : ∀ files : FileMap, ∀ t ∈ written.tags, ∀ p ∈ t.query, ∃ text,
    (generate d ctx.unhooked layout w files).2.find? p = some text ∧
      (generate d (ctx.hooked h) layout w files).2.find? p = some text
  /-- So is the model module, if the files that are written have different paths. -/
  model : (written.paths.Pairwise fun p q => p.parts ≠ q.parts) →
    ∀ files : FileMap, ∀ p ∈ written.model, ∃ text,
      (generate d ctx.unhooked layout w files).2.find? p = some text ∧
        (generate d (ctx.hooked h) layout w files).2.find? p = some text
  /-- So are all files that are no endpoint module which is written. -/
  others : ∀ (files : FileMap) (q : Path), (∀ t ∈ written.tags, t.endpoint.parts ≠ q.parts) →
    (generate d (ctx.hooked h) layout w files).2.find? q =
      (generate d ctx.unhooked layout w files).2.find? q

section Refusing

variable (d ctx h layout r)

/-- The file of a written endpoint module has the text that the hook makes of it. -/
theorem endpoint_hooked {t : TagOutput} (ht : t ∈ (writtenByRun d ctx.unhooked layout r).tags)
    (files : FileMap) :
    HookApplied h ((generate d ctx.unhooked layout (refusing r) files).2.find? t.endpoint)
      ((generate d (ctx.hooked h) layout (refusing r) files).2.find? t.endpoint) := by
  rcases runChanges_eq d ctx.unhooked layout r with ⟨path, -, -, hwritten, hchanges⟩ | ⟨hnothing, -⟩
  · rw [hwritten] at ht
    rw [generate_refusing, generate_refusing, find?_applyAll, find?_applyAll, hchanges, hchanges,
      tagsChanges_hooked, effectAll_append, effectAll_append]
    have hput := puts_endpoint_tagsChanges_iff.2 ⟨t, ht, rfl⟩
    exact effectAll_hooked (writesIn_tagsChanges d) hput _ _
  · rw [hnothing] at ht
    cases ht

/-- A file that is no written endpoint module is the same with the hook. -/
theorem find?_hooked_of_not_endpoint {q : Path}
    (hq : ∀ t ∈ (writtenByRun d ctx.unhooked layout r).tags, t.endpoint.parts ≠ q.parts)
    (files : FileMap) :
    (generate d (ctx.hooked h) layout (refusing r) files).2.find? q =
      (generate d ctx.unhooked layout (refusing r) files).2.find? q := by
  rw [generate_refusing, generate_refusing, find?_applyAll, find?_applyAll]
  rcases runChanges_eq d ctx.unhooked layout r with ⟨path, -, -, hwritten, hchanges⟩ | ⟨-, hsame⟩
  · rw [hwritten] at hq
    rw [hchanges, hchanges, tagsChanges_hooked, effectAll_append, effectAll_append]
    refine effectAll_hooked_of_not_put (fun c hc hputs => ?_) _
    obtain ⟨t, ht, hparts⟩ := puts_endpoint_tagsChanges_iff.1 ⟨c, hc, hputs⟩
    exact hq t ht hparts
  · rw [hsame (ctx.hooked h)]

theorem postProcessed_refusing :
    PostProcessed d ctx h layout (refusing r) (writtenByRun d ctx.unhooked layout r) := by
  have htags : ∀ t ∈ (writtenByRun d ctx.unhooked layout r).tags,
      t.endpoint.IsEndpoint ∧ ∀ p ∈ t.query, ¬ p.IsEndpoint := by
    intro t ht
    rcases runChanges_eq d ctx.unhooked layout r with ⟨path, -, -, hwritten, -⟩ | ⟨hnothing, -⟩
    · rw [hwritten] at ht
      exact isEndpoint_of_writtenTagsOf ht
    · rw [hnothing] at ht
      cases ht
  -- a file that is written and no endpoint module has one text in both runs
  have hboth : ∀ p ∈ (writtenByRun d ctx.unhooked layout r).paths,
      (∀ t ∈ (writtenByRun d ctx.unhooked layout r).tags, t.endpoint.parts ≠ p.parts) →
        ∀ files : FileMap, ∃ text,
          (generate d ctx.unhooked layout (refusing r) files).2.find? p = some text ∧
            (generate d (ctx.hooked h) layout (refusing r) files).2.find? p = some text := by
    intro p hp hother files
    obtain ⟨text, htext⟩ := exists_text_of_written hp files
    have hsame := find?_hooked_of_not_endpoint d ctx h layout r hother files
    exact ⟨text, htext, hsame.trans htext⟩
  refine ⟨fun files => ?_, fun files report hreport => ?_, fun files t ht => ?_,
    fun files t ht p hp => ?_, fun hdistinct files p hp => ?_, fun files q hq => ?_⟩
  · rw [generate_refusing, generate_refusing, runAnswer_hooked]
  · rw [generate_refusing] at hreport
    exact (writtenByRun_of_ok hreport).symm
  · exact endpoint_hooked d ctx h layout r ht files
  · refine hboth p ?_ (fun t' ht' hparts => ?_) files
    · exact List.mem_append_right _ (List.mem_flatMap.2 ⟨t, ht, mem_paths.2 (Or.inl hp)⟩)
    · exact (htags t ht).2 p hp ((Path.isEndpoint_congr hparts).1 (htags t' ht').1)
  · have hmem : p ∈ (writtenByRun d ctx.unhooked layout r).model.toList := Option.mem_toList.2 hp
    refine hboth p (List.mem_append_left _ hmem) (fun t ht hparts => ?_) files
    have hends : t.endpoint ∈
        (writtenByRun d ctx.unhooked layout r).tags.flatMap TagOutput.paths :=
      List.mem_flatMap.2 ⟨t, ht, mem_paths.2 (Or.inr rfl)⟩
    exact (List.pairwise_append.1 hdistinct).2.2 p hmem t.endpoint hends hparts.symm
  · exact find?_hooked_of_not_endpoint d ctx h layout r hq files

end Refusing

/-- **A hook of code that never fails is applied to the finished endpoint modules and to nothing
else.** With it a run ends as one without, saying the same. The endpoint modules that are written
are those of the other run with the hook applied, and all other files are the same, whichever paths
fail and however the runs end. -/
theorem post_processed (d : Document) (ctx : Context) (h : String → String)
    (layout : OutputLayout) :
    (∀ r : Refusals,
      PostProcessed d ctx h layout (refusing r) (writtenByRun d ctx.unhooked layout r)) ∧
    ∀ failing : List Path, PostProcessed d ctx h layout (FileMap.writer failing)
      (writtenByRun d ctx.unhooked layout (.onPaths failing)) := by
  refine ⟨postProcessed_refusing d ctx h layout, fun failing => ?_⟩
  rw [writer_eq_refusing]
  exact postProcessed_refusing d ctx h layout (.onPaths failing)

/-- A document with a named schema, and operations of two tags of which one has a query
parameter. -/
def limitedDocument : Document :=
  let operation := fun (tag : String) (parameters : List ParameterEntry) =>
    PathItem.mk (.ofPairs [(.get, ⟨[tag], none, none, parameters, none, .empty⟩)]) []
  { Document.empty with
    paths := .ofPairs [("/pets", operation "pets" [.inline ⟨"limit", .query, none, false, none⟩]),
      ("/toys", operation "toys" [])]
    components := some ⟨some (.ofPairs [("Pet", .empty)]), .empty⟩ }

/-- A run on the document, from no files. -/
def runLimited (ctx : Context) (failing : List Path) : Outcome Report × FileMap :=
  generate limitedDocument ctx apiLayout (FileMap.writer failing) .empty

theorem post_processed_limited :
    let ctx := Context.ofTemplate fun call => .ok call.url
    let h := fun text => "// generated\n" ++ text
    (runLimited (ctx.hooked h) []).1.result = (runLimited ctx.unhooked []).1.result ∧
      (∃ text, (runLimited ctx.unhooked []).2.find? ⟨"api/pets/index.ts"⟩ = some text ∧
        (runLimited (ctx.hooked h) []).2.find? ⟨"api/pets/index.ts"⟩ =
          some ("// generated\n" ++ text)) ∧
      (∃ text, (runLimited ctx.unhooked []).2.find? ⟨"api/pets/model.ts"⟩ = some text ∧
        (runLimited (ctx.hooked h) []).2.find? ⟨"api/pets/model.ts"⟩ = some text) ∧
      ∃ text, (runLimited ctx.unhooked []).2.find? ⟨"api/model.ts"⟩ = some text ∧
        (runLimited (ctx.hooked h) []).2.find? ⟨"api/model.ts"⟩ = some text := by
  intro ctx h
  have hruns := (post_processed limitedDocument ctx h apiLayout).2 []
  have hwritten : writtenByRun limitedDocument ctx.unhooked apiLayout (.onPaths []) =
      ⟨some ⟨"api/model.ts"⟩, [⟨"pets", ⟨"api/pets/index.ts"⟩, some ⟨"api/pets/model.ts"⟩, 1⟩,
        ⟨"toys", ⟨"api/toys/index.ts"⟩, none, 1⟩]⟩ := by
    decide +kernel
  rw [hwritten] at hruns
  refine ⟨congrArg Outcome.result (hruns.outcome .empty), ?_, ?_, ?_⟩
  · exact hruns.endpoints .empty _ (List.mem_cons_self ..)
  · exact hruns.queries .empty _ (List.mem_cons_self ..) _ rfl
  · exact hruns.model (by decide +kernel) .empty _ rfl

end Request

end TypedRequests
