import TypedRequests.Proofs.Containment

/-!
# Changes with a hook of code

A hook of code that never fails has a say in the texts of endpoint modules alone. The changes for
the modules of tags are the same with it but for those texts.

* `Context.unhooked`, `Context.hooked` : the settings without a hook of code, and with one.
* `FileMap.Change.hooked` : what the hook makes of a change.
* `effectAll_hooked`, `effectAll_hooked_of_not_put` : what it makes of one file.
* `plan_hooked` : the hook changes the text of the endpoint module of a plan.
* `changesAll_hooked` : what it makes of the changes for tags.
* `writtenTags`, `puts_endpoint_changesAll_iff` : the tags that have been written when a run ends or
  fails are those whose endpoint modules get a text.
-/

set_option autoImplicit false

namespace TypedRequests

open FileMap

/-! ## Changes -/

/-- The file has the name of endpoint modules. -/
def Path.IsEndpoint (p : Path) : Prop :=
  p.parts.getLast? = some (.name "index.ts")

instance : DecidablePred Path.IsEndpoint := fun p =>
  inferInstanceAs (Decidable (p.parts.getLast? = some (.name "index.ts")))

theorem Path.isEndpoint_congr {p q : Path} (h : p.parts = q.parts) :
    p.IsEndpoint ↔ q.IsEndpoint := by
  rw [IsEndpoint, IsEndpoint, h]

namespace FileMap

variable {h : String → String} {q : Path} {c : Change} {cs : List Change} {x y : Option String}

/-- The change with the hook applied to the text of an endpoint module. -/
def Change.hooked (h : String → String) : Change → Change
  | erase dir => .erase dir
  | ensure p => .ensure p
  | put p text => .put p (if p.IsEndpoint then h text else text)

/-- The change gives the endpoint module a text. -/
def Change.PutsEndpoint (q : Path) : Change → Prop
  | erase _ | ensure _ => False
  | put p _ => p.parts = q.parts ∧ q.IsEndpoint

/-- A change that gives no endpoint module a text has the same effect with the hook. -/
theorem Change.effect_hooked (hc : ¬ c.PutsEndpoint q) (x : Option String) :
    (c.hooked h).effect q x = c.effect q x := by
  cases c with
  | erase dir => rfl
  | ensure p => rfl
  | put p text =>
    simp only [hooked, effect]
    by_cases hp : p.parts = q.parts
    · have hnot : ¬ p.IsEndpoint := fun hend => hc ⟨hp, (Path.isEndpoint_congr hp).1 hend⟩
      rw [if_neg hnot]
    · rw [if_neg hp, if_neg hp]

theorem effectAll_hooked_of_not_put (hcs : ∀ c ∈ cs, ¬ c.PutsEndpoint q) (x : Option String) :
    effectAll q x (cs.map (Change.hooked h)) = effectAll q x cs := by
  induction cs generalizing x with
  | nil => rfl
  | cons c cs ih =>
    obtain ⟨hc, hcs⟩ := List.forall_mem_cons.1 hcs
    rw [List.map_cons, effectAll, List.foldl_cons, Change.effect_hooked hc]
    exact ih hcs (c.effect q x)

/-- There are two texts, and the second is what the hook makes of the first. -/
def HookApplied (h : String → String) (x y : Option String) : Prop :=
  ∃ text, x = some text ∧ y = some (h text)

/-- A change that writes keeps the hook applied to an endpoint module. -/
theorem HookApplied.effect {place : Path → Prop} (hxy : HookApplied h x y)
    (hc : c.WritesIn place) (hq : q.IsEndpoint) :
    HookApplied h (c.effect q x) ((c.hooked h).effect q y) := by
  obtain ⟨text, rfl, rfl⟩ := hxy
  cases c with
  | erase dir => exact hc.elim
  | ensure p =>
    simp only [Change.hooked, Change.effect, Option.getD_some, ite_self]
    exact ⟨text, rfl, rfl⟩
  | put p text' =>
    simp only [Change.hooked, Change.effect]
    by_cases hp : p.parts = q.parts
    · rw [if_pos hp, if_pos hp, if_pos ((Path.isEndpoint_congr hp).2 hq)]
      exact ⟨text', rfl, rfl⟩
    · rw [if_neg hp, if_neg hp]
      exact ⟨text, rfl, rfl⟩

theorem HookApplied.effectAll {place : Path → Prop} (hxy : HookApplied h x y)
    (hcs : ∀ c ∈ cs, c.WritesIn place) (hq : q.IsEndpoint) :
    HookApplied h (effectAll q x cs) (effectAll q y (cs.map (Change.hooked h))) := by
  induction cs generalizing x y with
  | nil => exact hxy
  | cons c cs ih =>
    obtain ⟨hc, hcs⟩ := List.forall_mem_cons.1 hcs
    exact ih (hxy.effect hc hq) hcs

/-- **Once an endpoint module has a text, the hook is applied to it**, whatever was there before. -/
theorem effectAll_hooked {place : Path → Prop} (hcs : ∀ c ∈ cs, c.WritesIn place)
    (hput : ∃ c ∈ cs, c.PutsEndpoint q) (x y : Option String) :
    HookApplied h (effectAll q x cs) (effectAll q y (cs.map (Change.hooked h))) := by
  induction cs generalizing x y with
  | nil =>
    obtain ⟨c, hc, -⟩ := hput
    cases hc
  | cons c cs ih =>
    obtain ⟨hc, htail⟩ := List.forall_mem_cons.1 hcs
    by_cases hrest : ∃ c ∈ cs, c.PutsEndpoint q
    · exact ih htail hrest _ _
    · -- the first change gives the text, and the others keep it
      have hfirst : c.PutsEndpoint q := by
        obtain ⟨c', hc', hputs⟩ := hput
        rcases List.mem_cons.1 hc' with rfl | hc'
        · exact hputs
        · exact absurd ⟨c', hc', hputs⟩ hrest
      cases c with
      | erase dir => exact hc.elim
      | ensure p => exact hfirst.elim
      | put p text =>
        obtain ⟨hp, hq⟩ := hfirst
        have hafter : HookApplied h ((Change.put p text).effect q x)
            (((Change.put p text).hooked h).effect q y) := by
          simp only [Change.hooked, Change.effect]
          rw [if_pos hp, if_pos hp, if_pos ((Path.isEndpoint_congr hp).2 hq)]
          exact ⟨text, rfl, rfl⟩
        exact hafter.effectAll htail hq

/-- Writing a file gives it its text, if it can be written. -/
theorem Refusals.mem_changes_put {r : Refusals} {p p' : Path} {text text' : String}
    (hmem : .put p' text' ∈ r.changes p text) : p' = p ∧ text' = text ∧ r.refusal p = none := by
  unfold Refusals.changes at hmem
  split at hmem
  · cases hmem
  · rcases List.mem_singleton.1 hmem with ⟨⟩
  · rename_i hensure hwrite
    obtain ⟨rfl, rfl⟩ : p' = p ∧ text' = text := by simpa using hmem
    exact ⟨rfl, rfl, by rw [Refusals.refusal, hensure, hwrite]; rfl⟩

end FileMap

namespace Request

open OpenApi

/-! ## Plans -/

/-- The settings without a hook of code. -/
def Context.unhooked (ctx : Context) : Context :=
  { ctx with codeHook := none }

/-- The settings with a hook of code that never fails. -/
def Context.hooked (ctx : Context) (h : String → String) : Context :=
  { ctx with codeHook := some fun text => .ok (h text) }

/-- The plan with the hook applied to its endpoint module. -/
def TagPlan.hooked (h : String → String) (plan : TagPlan) : TagPlan :=
  { plan with endpoint := plan.endpoint.map h }

variable {d : Document} {ctx : Context} {h : String → String} {layout : OutputLayout}
  {modelTypes : List String} {r : Refusals}

theorem emitFunction_hooked (ctx : Context) (h : String → String) (e : Endpoint) (names : Names) :
    emitFunction (ctx.hooked h) e names = emitFunction ctx.unhooked e names :=
  rfl

theorem emitFunctions_hooked (ctx : Context) (h : String → String) (tag : String) (names : Names)
    (es : List Endpoint) :
    emitFunctions (ctx.hooked h) tag names es = emitFunctions ctx.unhooked tag names es := by
  induction es generalizing names with
  | nil => rfl
  | cons e es ih => simp only [emitFunctions, emitFunction_hooked, ih]

/-- A document has the same operations with the hook. -/
theorem extract_hooked (d : Document) (ctx : Context) (h : String → String) :
    extract d (ctx.hooked h) = extract d ctx.unhooked :=
  rfl

theorem endpointText_hooked (ctx : Context) (h : String → String) (m : TypeScript.Module) :
    endpointText (ctx.hooked h) m = (endpointText ctx.unhooked m).map h :=
  rfl

theorem queryModule_hooked (ctx : Context) (h : String → String) (layout : OutputLayout)
    (tag : String) (fs : List EmittedFunction) :
    queryModule (ctx.hooked h) layout tag fs = queryModule ctx.unhooked layout tag fs :=
  rfl

theorem endpointModule_hooked (ctx : Context) (h : String → String) (layout : OutputLayout)
    (tag : String) (fs : List EmittedFunction) :
    endpointModule (ctx.hooked h) layout tag fs = endpointModule ctx.unhooked layout tag fs :=
  rfl

theorem planOf_hooked (ctx : Context) (h : String → String) (layout : OutputLayout) (tag : String)
    (fs : List EmittedFunction) :
    planOf (ctx.hooked h) layout tag fs = (planOf ctx.unhooked layout tag fs).hooked h := by
  unfold planOf TagPlan.hooked
  rw [queryModule_hooked, endpointModule_hooked, endpointText_hooked]

/-- **The hook changes the text of the endpoint module of a plan**, and nothing else. -/
theorem plan_hooked (m : TagModule) (ctx : Context) (h : String → String) (layout : OutputLayout)
    (modelTypes : List String) :
    m.plan (ctx.hooked h) layout modelTypes =
      (m.plan ctx.unhooked layout modelTypes).map (Option.map (TagPlan.hooked h)) := by
  unfold TagModule.plan
  rw [emitFunctions_hooked]
  generalize emitFunctions ctx.unhooked m.name (Names.ofModelTypes modelTypes) m.endpoints = o
  obtain ⟨notices, result⟩ := o
  cases result with
  | error error => rfl
  | ok fs =>
    cases fs with
    | nil => rfl
    | cons f fs =>
      simp only [planOf_hooked]
      rfl

/-- The changes of writing a file, with the hook. -/
theorem map_hooked_changes (r : Refusals) (p : Path) (text : String) :
    (r.changes p text).map (Change.hooked h) =
      r.changes p (if p.IsEndpoint then h text else text) := by
  unfold Refusals.changes
  cases r.ensureFile p <;> cases r.writeFile p <;> rfl

namespace TagPlan

variable {plan : TagPlan} {t : TagOutput}

theorem answer_hooked (plan : TagPlan) (h : String → String) (r : Refusals) :
    (plan.hooked h).answer r = plan.answer r := by
  simp only [answer, hooked]
  cases plan.endpoint <;> rfl

theorem changes_hooked (hquery : ¬ plan.queryPath.IsEndpoint)
    (hendpoint : plan.endpointPath.IsEndpoint) :
    (plan.hooked h).changes r = (plan.changes r).map (Change.hooked h) := by
  have hqueries : (plan.hooked h).queryChanges r =
      (plan.queryChanges r).map (Change.hooked h) := by
    simp only [queryChanges, hooked]
    cases plan.query with
    | none => rfl
    | some text =>
      simp only
      rw [map_hooked_changes, if_neg hquery]
  unfold changes
  rw [hqueries, List.map_append]
  congr 1
  simp only [hooked]
  cases plan.endpoint with
  | error error => rfl
  | ok text =>
    simp only [Except.map]
    rw [map_hooked_changes, if_pos hendpoint]

/-- What is reported on a plan are its own files. -/
theorem paths_of_answer (ht : (plan.answer r).result = .ok t) :
    t.endpoint = plan.endpointPath ∧ (∀ p ∈ t.query, p = plan.queryPath) ∧
      r.refusal plan.endpointPath = none := by
  simp only [answer, writtenBy] at ht
  cases htext : plan.endpoint with
  | error error =>
    rw [htext] at ht
    cases ht
  | ok text =>
    cases hwritten : r.refusal plan.endpointPath with
    | some e =>
      rw [htext, hwritten] at ht
      cases ht
    | none =>
      rw [htext, hwritten] at ht
      cases ht
      refine ⟨rfl, fun p hp => ?_, rfl⟩
      simp only [writtenQuery] at hp
      split at hp
      · exact (Option.some.inj hp).symm
      · cases hp

/-- A plan gives its endpoint module a text exactly if it is reported. -/
theorem puts_endpoint_iff (hquery : ¬ plan.queryPath.IsEndpoint)
    (hendpoint : plan.endpointPath.IsEndpoint) {q : Path} :
    (∃ c ∈ plan.changes r, c.PutsEndpoint q) ↔
      ∃ t, (plan.answer r).result = .ok t ∧ t.endpoint.parts = q.parts := by
  constructor
  · rintro ⟨c, hc, hputs⟩
    cases c with
    | erase dir => exact hputs.elim
    | ensure p => exact hputs.elim
    | put p text =>
      obtain ⟨hp, hq⟩ := hputs
      rcases List.mem_append.1 hc with hc | hc
      · unfold queryChanges at hc
        split at hc
        · cases hc
        · obtain ⟨rfl, -, -⟩ := Refusals.mem_changes_put hc
          exact absurd ((Path.isEndpoint_congr hp).2 hq) hquery
      · cases htext : plan.endpoint with
        | error error =>
          rw [htext] at hc
          cases hc
        | ok text' =>
          rw [htext] at hc
          obtain ⟨rfl, -, hwritten⟩ := Refusals.mem_changes_put hc
          refine ⟨⟨plan.tag, plan.endpointPath, plan.writtenQuery r, plan.functions⟩, ?_, hp⟩
          simp only [answer, writtenBy, htext, hwritten]
          rfl
  · rintro ⟨t, ht, hp⟩
    obtain ⟨text, htext⟩ := put_mem_changes ht (mem_paths.2 (Or.inr rfl))
    rw [(paths_of_answer ht).1] at hp
    refine ⟨_, htext, ?_, (Path.isEndpoint_congr hp).1 hendpoint⟩
    rw [(paths_of_answer ht).1]
    exact hp

end TagPlan

/-! ## Modules -/

namespace TagModule

theorem isEndpoint_endpointPath (ctx : Context) (layout : OutputLayout) (tag : String)
    (fs : List EmittedFunction) : (planOf ctx layout tag fs).endpointPath.IsEndpoint := by
  simp only [planOf, Path.IsEndpoint]
  rw [parts_endpointPath, tagFile]
  simp

theorem not_isEndpoint_queryPath (ctx : Context) (layout : OutputLayout) (tag : String)
    (fs : List EmittedFunction) : ¬ (planOf ctx layout tag fs).queryPath.IsEndpoint := by
  simp only [planOf, Path.IsEndpoint]
  rw [parts_queryPath, tagFile]
  simp

variable {m : TagModule} {t : TagOutput} {q : Path}

theorem answer_hooked (m : TagModule) (ctx : Context) (h : String → String)
    (layout : OutputLayout) (modelTypes : List String) (r : Refusals) :
    m.answer (ctx.hooked h) layout modelTypes r =
      m.answer ctx.unhooked layout modelTypes r := by
  simp only [answer, plan_hooked, Outcome.map]
  cases (m.plan ctx.unhooked layout modelTypes).result with
  | error error => rfl
  | ok plan? =>
    cases plan? with
    | none => rfl
    | some plan => simp only [Except.map, Option.map, TagPlan.answer_hooked]

theorem changes_hooked (m : TagModule) (ctx : Context) (h : String → String)
    (layout : OutputLayout) (modelTypes : List String) (r : Refusals) :
    m.changes (ctx.hooked h) layout modelTypes r =
      (m.changes ctx.unhooked layout modelTypes r).map (Change.hooked h) := by
  simp only [changes, plan_hooked, Outcome.map]
  cases hplan : (m.plan ctx.unhooked layout modelTypes).result with
  | error error => rfl
  | ok plan? =>
    cases plan? with
    | none => rfl
    | some plan =>
      obtain ⟨fs, -, -, rfl⟩ := plan_eq_some_iff.1 hplan
      exact TagPlan.changes_hooked (not_isEndpoint_queryPath ctx.unhooked layout m.name fs)
        (isEndpoint_endpointPath ctx.unhooked layout m.name fs)

/-- The modules of a tag give its endpoint module a text exactly if they are reported. -/
theorem puts_endpoint_iff :
    (∃ c ∈ m.changes ctx layout modelTypes r, c.PutsEndpoint q) ↔
      ∃ t, m.output ctx layout modelTypes r = some t ∧ t.endpoint.parts = q.parts := by
  constructor
  · intro hputs
    unfold changes at hputs
    split at hputs
    · rename_i plan hplan
      have hplan' := hplan
      obtain ⟨fs, -, -, rfl⟩ := plan_eq_some_iff.1 hplan
      obtain ⟨t, ht, hq⟩ := (TagPlan.puts_endpoint_iff
        (not_isEndpoint_queryPath ctx layout m.name fs)
        (isEndpoint_endpointPath ctx layout m.name fs)).1 hputs
      refine ⟨t, ?_, hq⟩
      rw [output, answer_of_plan hplan']
      simp only [Outcome.after, Outcome.map, ht]
      rfl
    · obtain ⟨c, hc, -⟩ := hputs
      cases hc
  · rintro ⟨t, ht, hq⟩
    obtain ⟨plan, hplan, hanswer⟩ := exists_plan_of_output ht
    rw [changes_of_plan hplan]
    obtain ⟨fs, -, -, rfl⟩ := plan_eq_some_iff.1 hplan
    exact (TagPlan.puts_endpoint_iff (not_isEndpoint_queryPath ctx layout m.name fs)
      (isEndpoint_endpointPath ctx layout m.name fs)).2 ⟨t, hanswer, hq⟩

end TagModule

/-! ## Modules one after the other -/

theorem answerAll_hooked (ctx : Context) (h : String → String) (layout : OutputLayout)
    (modelTypes : List String) (r : Refusals) (ms : List TagModule) :
    answerAll (ctx.hooked h) layout modelTypes r ms =
      answerAll ctx.unhooked layout modelTypes r ms := by
  induction ms with
  | nil => rfl
  | cons m ms ih => rw [answerAll, answerAll, ih, TagModule.answer_hooked]

theorem changesAll_hooked (ctx : Context) (h : String → String) (layout : OutputLayout)
    (modelTypes : List String) (r : Refusals) (ms : List TagModule) :
    changesAll (ctx.hooked h) layout modelTypes r ms =
      (changesAll ctx.unhooked layout modelTypes r ms).map (Change.hooked h) := by
  induction ms with
  | nil => rfl
  | cons m ms ih =>
    rw [changesAll, changesAll, List.map_append, TagModule.answer_hooked, TagModule.changes_hooked,
      ih]
    cases (m.answer ctx.unhooked layout modelTypes r).result <;> rfl

/-- What has been written for tags when all are done, or when one of them fails. -/
def writtenTags (ctx : Context) (layout : OutputLayout) (modelTypes : List String) (r : Refusals) :
    List TagModule → List TagOutput
  | [] => []
  | m :: ms =>
    (m.output ctx layout modelTypes r).toList ++
      match (m.answer ctx layout modelTypes r).result with
      | .error _ => []
      | .ok _ => writtenTags ctx layout modelTypes r ms

variable {ms : List TagModule} {q : Path}

/-- What is reported on tags is what has been written for them. -/
theorem writtenTags_of_ok {outputs : List TagOutput}
    (hms : (answerAll ctx layout modelTypes r ms).result = .ok outputs) :
    writtenTags ctx layout modelTypes r ms = outputs := by
  induction ms generalizing outputs with
  | nil =>
    cases hms
    rfl
  | cons m ms ih =>
    rw [answerAll] at hms
    rw [writtenTags]
    cases hm : (m.answer ctx layout modelTypes r).result with
    | error error =>
      simp only [hm] at hms
      cases hms
    | ok output =>
      have houtput : m.output ctx layout modelTypes r = output := by
        rw [TagModule.output, hm]
        rfl
      simp only [hm, Outcome.after] at hms
      obtain ⟨rest, hrest, rfl⟩ := Outcome.map_result_eq_ok.1 hms
      rw [houtput, ih hrest]

/-- **The endpoint modules that get a text are those of the tags that have been written.** -/
theorem puts_endpoint_changesAll_iff :
    (∃ c ∈ changesAll ctx layout modelTypes r ms, c.PutsEndpoint q) ↔
      ∃ t ∈ writtenTags ctx layout modelTypes r ms, t.endpoint.parts = q.parts := by
  induction ms with
  | nil => simp [changesAll, writtenTags]
  | cons m ms ih =>
    have hm : (∃ c ∈ m.changes ctx layout modelTypes r, c.PutsEndpoint q) ↔
        ∃ t ∈ (m.output ctx layout modelTypes r).toList, t.endpoint.parts = q.parts := by
      rw [TagModule.puts_endpoint_iff]
      simp only [Option.mem_toList]
    rw [changesAll, writtenTags]
    simp only [List.mem_append, or_and_right, exists_or]
    refine or_congr hm ?_
    cases (m.answer ctx layout modelTypes r).result with
    | error error => simp
    | ok output => exact ih

theorem exists_output_of_written {t : TagOutput}
    (ht : t ∈ writtenTags ctx layout modelTypes r ms) :
    ∃ m ∈ ms, m.output ctx layout modelTypes r = some t := by
  induction ms with
  | nil => cases ht
  | cons m ms ih =>
    rw [writtenTags] at ht
    rcases List.mem_append.1 ht with ht | ht
    · exact ⟨m, List.mem_cons_self .., Option.mem_toList.1 ht⟩
    · split at ht
      · cases ht
      · obtain ⟨m', hm', ht⟩ := ih ht
        exact ⟨m', List.mem_cons_of_mem _ hm', ht⟩

/-- Of the files of a tag only the endpoint module has the name of one. -/
theorem isEndpoint_of_written {t : TagOutput}
    (ht : t ∈ writtenTags ctx layout modelTypes r ms) :
    t.endpoint.IsEndpoint ∧ ∀ p ∈ t.query, ¬ p.IsEndpoint := by
  obtain ⟨m, -, houtput⟩ := exists_output_of_written ht
  obtain ⟨plan, hplan, hanswer⟩ := TagModule.exists_plan_of_output houtput
  obtain ⟨fs, -, -, rfl⟩ := plan_eq_some_iff.1 hplan
  obtain ⟨hendpoint, hquery, -⟩ := TagPlan.paths_of_answer hanswer
  refine ⟨?_, fun p hp => ?_⟩
  · rw [hendpoint]
    exact TagModule.isEndpoint_endpointPath ctx layout m.name fs
  · rw [hquery p hp]
    exact TagModule.not_isEndpoint_queryPath ctx layout m.name fs

/-- What has been written for tags has been given a text. -/
theorem put_mem_of_written {t : TagOutput} (ht : t ∈ writtenTags ctx layout modelTypes r ms)
    {p : Path} (hp : p ∈ t.paths) :
    ∃ text, .put p text ∈ changesAll ctx layout modelTypes r ms := by
  induction ms with
  | nil => cases ht
  | cons m ms ih =>
    rw [writtenTags] at ht
    rw [changesAll]
    rcases List.mem_append.1 ht with ht | ht
    · obtain ⟨text, htext⟩ := TagModule.put_mem_changes (Option.mem_toList.1 ht) hp
      exact ⟨text, List.mem_append_left _ htext⟩
    · cases hm : (m.answer ctx layout modelTypes r).result with
      | error error =>
        rw [hm] at ht
        cases ht
      | ok output =>
        rw [hm] at ht
        obtain ⟨text, htext⟩ := ih ht
        exact ⟨text, List.mem_append_right _ htext⟩

end Request

end TypedRequests
