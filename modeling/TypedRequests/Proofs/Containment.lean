import TypedRequests.Proofs.Footprints
import TypedRequests.Proofs.Skipping

/-!
# Failures of query modules

A query module that cannot be written does not keep the endpoint module of its tag from being
written, and makes no difference to it. It is reported, and said once.

* `TagModule.typed`, `TagModule.HasQuery` : the endpoints that give functions, and whether one of
  them has query parameters.
* `level_of_mem_plan` : all that is said before anything is written is a warning.
* `Contained`, `side_failures_contained` : what failing paths make of the modules of a tag.
-/

set_option autoImplicit false

namespace TypedRequests

open FileMap

/-! ## Failing paths -/

/-- The path is the same as one of the given paths. -/
def Path.Among (failing : List Path) (p : Path) : Prop :=
  ∃ q ∈ failing, p.parts = q.parts

instance (failing : List Path) (p : Path) : Decidable (p.Among failing) :=
  inferInstanceAs (Decidable (∃ q ∈ failing, p.parts = q.parts))

namespace FileMap.Refusals

variable {failing : List Path} {p : Path}

theorem onPaths_eq (failing : List Path) (p : Path) :
    (if failing.any p.same then some FileError.readOnly else none) =
      if p.Among failing then some FileError.readOnly else none := by
  refine if_congr ?_ rfl rfl
  rw [List.any_eq_true]
  exact exists_congr fun q => and_congr_right fun _ => Path.same_iff

/-- A file cannot be written exactly if its path is a failing one. -/
theorem refusal_onPaths (failing : List Path) (p : Path) :
    (onPaths failing).refusal p = if p.Among failing then some .readOnly else none := by
  simp only [refusal, onPaths, onPaths_eq]
  split <;> rfl

theorem changes_onPaths (failing : List Path) (p : Path) (text : String) :
    (onPaths failing).changes p text =
      if p.Among failing then [] else [.ensure p, .put p text] := by
  simp only [changes, onPaths, onPaths_eq]
  by_cases h : p.Among failing
  · simp only [if_pos h]
  · simp only [if_neg h]

/-- A file has the text that is written to it, unless its path fails. -/
theorem find?_changes_onPaths (files : FileMap) (failing : List Path) (p q : Path)
    (text : String) :
    (files.applyAll ((onPaths failing).changes p text)).find? q =
      if p.parts = q.parts ∧ ¬ p.Among failing then some text else files.find? q := by
  rw [changes_onPaths]
  by_cases h : p.Among failing
  · rw [if_pos h, if_neg (fun hq => hq.2 h)]
    rfl
  · rw [if_neg h, find?_applyAll]
    by_cases hq : p.parts = q.parts
    · rw [if_pos ⟨hq, h⟩]
      exact if_pos hq
    · rw [if_neg (fun hp => hq hp.1)]
      refine effectAll_of_not_touches (fun c hc => ?_) _
      obtain rfl | rfl : c = .ensure p ∨ c = .put p text := by simpa using hc
      · exact hq
      · exact hq

end FileMap.Refusals

namespace Request

open OpenApi

variable {ctx : Context} {layout : OutputLayout} {modelTypes : List String} {m : TagModule}
  {es : List Endpoint} {fs : List EmittedFunction} {failing : List Path}

/-! ## What is said before -/

theorem level_of_mem_emitFunctions {tag : String} {names : Names} {n : Notice}
    (hn : n ∈ (emitFunctions ctx tag names es).notices) : n.level = .warning := by
  induction es generalizing names with
  | nil => cases hn
  | cons e es ih =>
    unfold emitFunctions at hn
    split at hn
    · exact ih hn
    · rcases List.mem_cons.1 hn with rfl | hn
      · rfl
      · exact ih hn
    · cases hn

/-- **All that is said on a tag before anything is written is a warning.** -/
theorem level_of_mem_plan {n : Notice} (hn : n ∈ (m.plan ctx layout modelTypes).notices) :
    n.level = .warning := by
  unfold TagModule.plan at hn
  simp only at hn
  split at hn
  · exact level_of_mem_emitFunctions hn
  · rcases List.mem_append.1 hn with hn | hn
    · exact level_of_mem_emitFunctions hn
    · obtain rfl := List.mem_singleton.1 hn
      rfl
  · exact level_of_mem_emitFunctions hn

/-! ## Functions with query parameters -/

/-- The endpoints that give functions: those that have a type. -/
def TagModule.typed (m : TagModule) : List Endpoint :=
  m.endpoints.filter fun e => ¬ e.Untyped

/-- One of the functions has query parameters. -/
def TagModule.HasQuery (m : TagModule) : Prop :=
  ∃ e ∈ m.typed, e.query ≠ []

instance (m : TagModule) : Decidable m.HasQuery :=
  inferInstanceAs (Decidable (∃ e ∈ m.typed, e.query ≠ []))

/-- A function has a query type exactly if its endpoint has query parameters. -/
theorem GivenBy.isSome_query_iff {e : Endpoint} {f : EmittedFunction} (h : GivenBy ctx e f) :
    f.query.isSome = true ↔ e.query ≠ [] := by
  obtain ⟨before, after, hf⟩ := h
  have hname := (emitFunction_ok hf).queryName
  rw [← Option.isSome_map, hname, ne_eq, ← List.isEmpty_iff]
  cases e.query.isEmpty <;> simp

theorem exists_query_iff (h : List.Forall₂ (GivenBy ctx) es fs) :
    (∃ f ∈ fs, f.query.isSome = true) ↔ ∃ e ∈ es, e.query ≠ [] := by
  induction h with
  | nil => simp
  | cons hf _ ih => rw [List.exists_mem_cons_iff, List.exists_mem_cons_iff, hf.isSome_query_iff, ih]

theorem queryStatements_eq_nil_iff :
    queryStatements fs = [] ↔ ¬ ∃ f ∈ fs, f.query.isSome = true := by
  rw [queryStatements, List.map_eq_nil_iff, List.filterMap_eq_nil_iff]
  simp

/-- A plan has a query module exactly if a function has a query type. -/
theorem query_planOf (ctx : Context) (layout : OutputLayout) (tag : String)
    (fs : List EmittedFunction) :
    (planOf ctx layout tag fs).query =
      if ∃ f ∈ fs, f.query.isSome = true then some (queryModule ctx layout tag fs).text
      else none := by
  have hempty : (queryModule ctx layout tag fs).isEmpty = true ↔ queryStatements fs = [] := by
    unfold queryModule
    split <;> simp_all
  simp only [planOf, hempty, queryStatements_eq_nil_iff, ite_not]

/-! ## Plans whose paths fail -/

section Plan

variable {plan : TagPlan} {text : String}

theorem TagPlan.notices_onPaths (plan : TagPlan) (failing : List Path) :
    plan.notices (.onPaths failing) =
      if plan.query.isSome = true ∧ plan.queryPath.Among failing then
        [.unwrittenQueryModule plan.queryPath (.write plan.queryPath .readOnly)]
      else [] := by
  rw [notices, Refusals.refusal_onPaths]
  by_cases h : plan.queryPath.Among failing <;> cases plan.query <;> simp [h]

theorem TagPlan.writtenQuery_onPaths (plan : TagPlan) (failing : List Path) :
    plan.writtenQuery (.onPaths failing) =
      if plan.query.isSome = true ∧ ¬ plan.queryPath.Among failing then some plan.queryPath
      else none := by
  rw [writtenQuery, Refusals.refusal_onPaths]
  by_cases h : plan.queryPath.Among failing <;> cases plan.query <;> simp [h]

theorem TagPlan.answer_onPaths (h : plan.endpoint = .ok text) (failing : List Path) :
    (plan.answer (.onPaths failing)).result =
      if plan.endpointPath.Among failing then .error (.write plan.endpointPath .readOnly)
      else .ok ⟨plan.tag, plan.endpointPath, plan.writtenQuery (.onPaths failing),
        plan.functions⟩ := by
  simp only [answer, h, Except.bind, writtenBy, Refusals.refusal_onPaths]
  by_cases hfails : plan.endpointPath.Among failing
  · simp only [if_pos hfails]
    rfl
  · simp only [if_neg hfails]
    rfl

/-- **What a plan leaves of a file**: its endpoint module, its query module or what was there. -/
theorem TagPlan.find?_changes_onPaths (h : plan.endpoint = .ok text) (failing : List Path)
    (files : FileMap) (q : Path) :
    (files.applyAll (plan.changes (.onPaths failing))).find? q =
      if plan.endpointPath.parts = q.parts ∧ ¬ plan.endpointPath.Among failing then some text
      else if plan.queryPath.parts = q.parts ∧ ¬ plan.queryPath.Among failing then
        plan.query.or (files.find? q)
      else files.find? q := by
  rw [changes, h, applyAll_append, Refusals.find?_changes_onPaths, queryChanges]
  refine if_congr Iff.rfl rfl ?_
  cases plan.query with
  | none => rw [Option.none_or, ite_self]; rfl
  | some query => exact Refusals.find?_changes_onPaths files failing plan.queryPath q query

end Plan

/-! ## Modules whose paths fail -/

namespace TagModule

/-- The path of the endpoint module. -/
def endpointPath (m : TagModule) (layout : OutputLayout) : Path :=
  (tagDir layout m.name).join endpointFile

/-- The path of the query module. -/
def queryPath (m : TagModule) (layout : OutputLayout) : Path :=
  (tagDir layout m.name).join queryFile

/-- What is reported on the tag if its endpoint module is written. -/
def reported (m : TagModule) (layout : OutputLayout) (failing : List Path) : TagOutput :=
  ⟨m.name, m.endpointPath layout,
    if m.HasQuery ∧ ¬ (m.queryPath layout).Among failing then some (m.queryPath layout) else none,
    m.typed.length⟩

theorem parts_queryPath_ne (m : TagModule) (layout : OutputLayout) :
    (m.queryPath layout).parts ≠ (m.endpointPath layout).parts := by
  rw [queryPath, endpointPath, parts_queryPath, parts_endpointPath, ne_eq, tagFile_eq_iff]
  exact fun h => absurd h.2 (by decide)

end TagModule

/-- What failing paths make of the modules of a tag whose functions are `fs` and whose endpoint
module has the given text. Neither of them depends on which paths fail. -/
structure Contained (ctx : Context) (layout : OutputLayout) (modelTypes : List String)
    (m : TagModule) (fs : List EmittedFunction) (text : String) (failing : List Path)
    (files : FileMap) : Prop where
  /-- Without functions nothing is reported and no file changes. -/
  nothing : m.typed = [] →
    (m.assemble ctx layout modelTypes (FileMap.writer failing) files).1.result = .ok none ∧
      (m.assemble ctx layout modelTypes (FileMap.writer failing) files).2 = files
  /-- An endpoint module that cannot be written is an error. -/
  refused : m.typed ≠ [] → (m.endpointPath layout).Among failing →
    (m.assemble ctx layout modelTypes (FileMap.writer failing) files).1.result =
      .error (.write (m.endpointPath layout) .readOnly)
  /-- Otherwise the tag is reported, with its query module if that is written. -/
  reported : m.typed ≠ [] → ¬ (m.endpointPath layout).Among failing →
    (m.assemble ctx layout modelTypes (FileMap.writer failing) files).1.result =
      .ok (some (m.reported layout failing))
  /-- The endpoint module has its text, unless it fails. -/
  endpoint : (m.assemble ctx layout modelTypes (FileMap.writer failing) files).2.find?
      (m.endpointPath layout) =
    if m.typed ≠ [] ∧ ¬ (m.endpointPath layout).Among failing then some text
    else files.find? (m.endpointPath layout)
  /-- The query module is that of the functions, unless there is none or it fails. -/
  query : (m.assemble ctx layout modelTypes (FileMap.writer failing) files).2.find?
      (m.queryPath layout) =
    if m.HasQuery ∧ ¬ (m.queryPath layout).Among failing then
      some (queryModule ctx layout m.name fs).text
    else files.find? (m.queryPath layout)
  /-- All other files stay as they are. -/
  others : ∀ q : Path, (m.endpointPath layout).parts ≠ q.parts →
    (m.queryPath layout).parts ≠ q.parts →
      (m.assemble ctx layout modelTypes (FileMap.writer failing) files).2.find? q = files.find? q
  /-- One error is said, on a query module that cannot be written, and none otherwise. -/
  errors : (m.assemble ctx layout modelTypes (FileMap.writer failing) files).1.notices.filter
      (fun n => n.level = .error) =
    if m.HasQuery ∧ (m.queryPath layout).Among failing then
      [.unwrittenQueryModule (m.queryPath layout) (.write (m.queryPath layout) .readOnly)]
    else []

theorem filter_error_plan (m : TagModule) :
    (m.plan ctx layout modelTypes).notices.filter (fun n => n.level = .error) = [] := by
  refine List.filter_eq_nil_iff.2 fun n hn => ?_
  rw [level_of_mem_plan hn]
  decide

theorem filter_error_notices (plan : TagPlan) (r : Refusals) :
    (plan.notices r).filter (fun n => n.level = .error) = plan.notices r := by
  refine List.filter_eq_self.2 fun n hn => ?_
  unfold TagPlan.notices at hn
  split at hn
  · obtain rfl := List.mem_singleton.1 hn
    rfl
  · cases hn

/-- Without functions nothing happens. -/
theorem contained_nil (h : (m.plan ctx layout modelTypes).result = .ok none) (hm : m.typed = [])
    (text : String) (failing : List Path) (files : FileMap) :
    Contained ctx layout modelTypes m fs text failing files := by
  have hquery : ¬ m.HasQuery := by simp [TagModule.HasQuery, hm]
  have hrun : m.assemble ctx layout modelTypes (FileMap.writer failing) files =
      (⟨(m.plan ctx layout modelTypes).notices, .ok none⟩, files) := by
    rw [writer_eq_refusing, m.assemble_refusing, TagModule.answer_of_no_plan h,
      TagModule.changes_of_no_plan h]
    rfl
  refine ⟨fun _ => by rw [hrun]; exact ⟨rfl, rfl⟩, absurd hm, absurd hm, ?_, ?_, ?_, ?_⟩
  · rw [hrun, if_neg (fun hp => hp.1 hm)]
  · rw [hrun, if_neg (fun hp => hquery hp.1)]
  · intro q _ _
    rw [hrun]
  · rw [hrun, if_neg (fun hp => hquery hp.1)]
    exact filter_error_plan m

/-- The plan of functions is carried out as far as their files do not fail. -/
theorem contained_of_plan {plan : TagPlan} {text : String}
    (h : (m.plan ctx layout modelTypes).result = .ok (some plan))
    (hplan : plan = planOf ctx layout m.name fs) (htext : plan.endpoint = .ok text)
    (hgiven : List.Forall₂ (GivenBy ctx) m.typed fs) (hm : m.typed ≠ []) (failing : List Path)
    (files : FileMap) : Contained ctx layout modelTypes m fs text failing files := by
  have hendpoint : plan.endpointPath = m.endpointPath layout := by
    simp only [hplan, planOf, TagModule.endpointPath]
  have hquery : plan.queryPath = m.queryPath layout := by
    simp only [hplan, planOf, TagModule.queryPath]
  have hmodule : plan.query =
      if m.HasQuery then some (queryModule ctx layout m.name fs).text else none := by
    rw [hplan, query_planOf]
    exact if_congr (exists_query_iff hgiven) rfl rfl
  have hsome : plan.query.isSome = true ↔ m.HasQuery := by
    rw [hmodule]
    split <;> simp_all
  have hrun : m.assemble ctx layout modelTypes (FileMap.writer failing) files =
      (((plan.answer (.onPaths failing)).map some).after (m.plan ctx layout modelTypes).notices,
        files.applyAll (plan.changes (.onPaths failing))) := by
    rw [writer_eq_refusing, m.assemble_refusing, TagModule.answer_of_plan h,
      TagModule.changes_of_plan h]
  have hfiles : ∀ q : Path,
      (m.assemble ctx layout modelTypes (FileMap.writer failing) files).2.find? q =
        if (m.endpointPath layout).parts = q.parts ∧ ¬ (m.endpointPath layout).Among failing then
          some text
        else if (m.queryPath layout).parts = q.parts ∧ ¬ (m.queryPath layout).Among failing then
          plan.query.or (files.find? q)
        else files.find? q := by
    intro q
    rw [hrun, ← hendpoint, ← hquery]
    exact TagPlan.find?_changes_onPaths htext failing files q
  have hne := m.parts_queryPath_ne layout
  refine ⟨fun h => absurd h hm, fun _ hfails => ?_, fun _ hwritten => ?_, ?_, ?_, ?_, ?_⟩
  · simp only [hrun, Outcome.after, Outcome.map, TagPlan.answer_onPaths htext]
    rw [hendpoint, if_pos hfails]
    rfl
  · have hreported : m.reported layout failing =
        ⟨plan.tag, plan.endpointPath, plan.writtenQuery (.onPaths failing), plan.functions⟩ := by
      simp only [plan.writtenQuery_onPaths, TagModule.reported, hsome, hendpoint, hquery,
        hgiven.length_eq]
      simp only [hplan, planOf]
    simp only [hrun, Outcome.after, Outcome.map, TagPlan.answer_onPaths htext]
    rw [hendpoint, if_neg hwritten, hreported, hendpoint]
    rfl
  · rw [hfiles]
    simp only [hm, hne, true_and, false_and, if_false, ne_eq, not_false_eq_true]
  · rw [hfiles, if_neg (fun hp => hne hp.1.symm), hmodule]
    by_cases hq : m.HasQuery <;> simp [hq]
  · intro q hendpoint' hquery'
    rw [hfiles, if_neg (fun hp => hendpoint' hp.1), if_neg (fun hp => hquery' hp.1)]
  · simp only [hrun, Outcome.after, Outcome.map, List.filter_append, filter_error_plan,
      List.nil_append]
    rw [TagPlan.answer, filter_error_notices, plan.notices_onPaths, hquery]
    simp only [hsome]

/-- **A query module that cannot be written makes no difference to the endpoint module of its tag.**
If the template and the hooks never fail, the functions of a tag and the text of its endpoint module
do not depend on the paths that fail. -/
theorem side_failures_contained (hctx : ctx.Unfailing) (m : TagModule) (layout : OutputLayout)
    (modelTypes : List String) :
    ∃ fs text, Emits ctx (Names.ofModelTypes modelTypes) m.endpoints fs ∧
      List.Forall₂ (GivenBy ctx) m.typed fs ∧
      endpointText ctx (endpointModule ctx layout m.name fs) = .ok text ∧
      ∀ (failing : List Path) (files : FileMap),
        Contained ctx layout modelTypes m fs text failing files := by
  obtain ⟨fs, hfs, hgiven⟩ := exists_emits hctx m.endpoints (Names.ofModelTypes modelTypes)
  obtain ⟨text, htext⟩ :
      ∃ text, endpointText ctx (endpointModule ctx layout m.name fs) = .ok text := by
    unfold endpointText
    cases hhook : ctx.codeHook with
    | none => exact ⟨_, rfl⟩
    | some hook =>
      obtain ⟨text, htext⟩ := hctx.codeHook hook hhook
        (TypeScript.Module.text (endpointModule ctx layout m.name fs))
      exact ⟨text, by simp only [htext, mapError_ok]⟩
  refine ⟨fs, text, hfs, hgiven, htext, fun failing files => ?_⟩
  have hplan := plan_of_emits hfs layout
  cases fs with
  | nil => exact contained_nil hplan (List.forall₂_nil_right_iff.1 hgiven) text failing files
  | cons f fs =>
    refine contained_of_plan hplan rfl htext hgiven (fun hnil => ?_) failing files
    rw [TagModule.typed] at hnil
    rw [hnil] at hgiven
    cases hgiven

/-- A tag with an operation that has a query parameter. -/
def limitedPets : TagModule :=
  ⟨"pets", "", [⟨"/pets", .get, none, [], [⟨"limit", none, false, none⟩], none, .empty⟩]⟩

theorem side_failures_contained_pets :
    (Context.ofTemplate fun call => .ok call.url).Unfailing ∧
      let run := limitedPets.assemble (.ofTemplate fun call => .ok call.url)
        ⟨⟨"api"⟩, ⟨"api/model.ts"⟩⟩ [] (FileMap.writer [⟨"api/pets/model.ts"⟩]) .empty
      run.1.result = .ok (some ⟨"pets", ⟨"api/pets/index.ts"⟩, none, 1⟩) ∧
        run.1.notices.filter (fun n => n.level = .error) =
          [.unwrittenQueryModule ⟨"api/pets/model.ts"⟩ (.write ⟨"api/pets/model.ts"⟩ .readOnly)] ∧
        (run.2.find? ⟨"api/pets/index.ts"⟩).isSome = true ∧
        run.2.find? ⟨"api/pets/model.ts"⟩ = none := by
  have hctx : (Context.ofTemplate fun call => .ok call.url).Unfailing :=
    ⟨fun call => ⟨call.url, rfl⟩, nofun, nofun⟩
  obtain ⟨fs, text, -, -, -, h⟩ :=
    side_failures_contained hctx limitedPets ⟨⟨"api"⟩, ⟨"api/model.ts"⟩⟩ []
  have hpets := h [⟨"api/pets/model.ts"⟩] .empty
  have htyped : limitedPets.typed ≠ [] := List.length_pos_iff.1 (by decide +kernel)
  have hindex : limitedPets.endpointPath ⟨⟨"api"⟩, ⟨"api/model.ts"⟩⟩ = ⟨"api/pets/index.ts"⟩ := by
    decide +kernel
  have hmodel : limitedPets.queryPath ⟨⟨"api"⟩, ⟨"api/model.ts"⟩⟩ = ⟨"api/pets/model.ts"⟩ := by
    decide +kernel
  have hendpoint := hpets.endpoint
  have hquery := hpets.query
  rw [if_pos ⟨htyped, by decide +kernel⟩, hindex] at hendpoint
  rw [if_neg (by decide +kernel), hmodel] at hquery
  exact ⟨hctx, (hpets.reported htyped (by decide +kernel)).trans (by decide +kernel),
    hpets.errors.trans (by decide +kernel), Option.isSome_iff_exists.2 ⟨text, hendpoint⟩, hquery⟩

end Request

end TypedRequests
