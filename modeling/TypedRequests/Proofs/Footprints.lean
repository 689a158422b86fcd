import TypedRequests.Proofs.Changes
import TypedRequests.Proofs.Outputs

/-!
# What a run changes

What a run answers and changes is settled by what it plans and by what the writer refuses, before
any file is looked at. There is one answer and one list of changes for each of its steps.

* `Refusals.refusal`, `Refusals.changes` : one file that is to be written.
* `TagPlan.answer`, `TagPlan.changes` : a plan that is carried out.
* `TagModule.answer`, `TagModule.changes`, `assemble_refusing` : the modules of a tag.
* `answerAll`, `changesAll`, `assembleAll_refusing` : the modules of tags, up to the first failure.
* `TagModule.writesIn_changes` : the modules of a tag write in the directory of their tag.
* `answerAll_eq_ok_iff`, `changesAll_eq_flatMap` : modules none of which fails.
* `put_mem_changesAll` : what is reported on them is written.
* `runAnswer`, `runChanges`, `generate_refusing` : a whole run.
-/

set_option autoImplicit false

namespace TypedRequests

open FileMap

/-! ## One file -/

section Refusals

variable {r : Refusals} {p : Path} {text : String}

/-- Why a file cannot be written, if it cannot: it cannot be made, or it takes no text. -/
def FileMap.Refusals.refusal (r : Refusals) (p : Path) : Option FileError :=
  (r.ensureFile p).or (r.writeFile p)

/-- The changes that writing a file makes. A file that takes no text is made all the same. -/
def FileMap.Refusals.changes (r : Refusals) (p : Path) (text : String) : List Change :=
  match r.ensureFile p, r.writeFile p with
  | some _, _ => []
  | none, some _ => [.ensure p]
  | none, none => [.ensure p, .put p text]

theorem FileMap.Refusals.put_mem_changes (h : r.refusal p = none) (text : String) :
    .put p text ∈ r.changes p text := by
  obtain ⟨hensure, hwrite⟩ := Option.or_eq_none_iff.1 h
  rw [Refusals.changes, hensure, hwrite]
  exact List.mem_cons_of_mem _ (List.mem_singleton.2 rfl)

theorem FileMap.Refusals.writesIn_changes {place : Path → Prop} (hp : place p) :
    ∀ c ∈ r.changes p text, c.WritesIn place := by
  intro c hc
  unfold Refusals.changes at hc
  split at hc
  · cases hc
  · obtain rfl := List.mem_singleton.1 hc
    exact hp
  · rcases List.mem_cons.1 hc with rfl | hc
    · exact hp
    · obtain rfl := List.mem_singleton.1 hc
      exact hp

end Refusals

namespace Request

open OpenApi

variable {ctx : Context} {layout : OutputLayout} {modelTypes : List String} {r : Refusals}

/-- What writing a file of a run answers. -/
def writtenBy (r : Refusals) (p : Path) : Except GenerateError Unit :=
  match r.refusal p with
  | some e => .error (.write p e)
  | none => .ok ()

theorem writeModule_refusing (r : Refusals) (p : Path) (text : String) (files : FileMap) :
    writeModule (refusing r) p text files =
      (writtenBy r p, files.applyAll (r.changes p text)) := by
  unfold writtenBy Refusals.refusal Refusals.changes
  cases hensure : r.ensureFile p with
  | some e =>
    have hstep : (refusing r).ensureFile p files = (.error e, files) := by
      simp only [refusing, attempt, hensure]
    unfold writeModule FileWriter.write
    rw [bind_assoc, bind_eq hstep]
    rfl
  | none =>
    have hstep : (refusing r).ensureFile p files = (.ok (), files.ensure p) := by
      simp only [refusing, attempt, hensure]
      rfl
    unfold writeModule FileWriter.write
    rw [bind_assoc, bind_eq hstep]
    cases hwrite : r.writeFile p with
    | some e =>
      have hstep' : (refusing r).writeFile p text (files.ensure p) =
          (.error e, files.ensure p) := by
        simp only [refusing, attempt, hwrite]
      simp only
      rw [bind_eq hstep']
      rfl
    | none =>
      have hstep' : (refusing r).writeFile p text (files.ensure p) =
          (.ok (), (files.ensure p).put p text) := by
        simp only [refusing, attempt, hwrite]
        rfl
      simp only
      rw [bind_eq hstep']
      rfl

/-! ## Plans -/

namespace TagPlan

variable (plan : TagPlan) (r : Refusals)

/-- What is said of a plan: that there is a query module which cannot be written. -/
def notices : List Notice :=
  match plan.query, r.refusal plan.queryPath with
  | some _, some e => [.unwrittenQueryModule plan.queryPath (.write plan.queryPath e)]
  | _, _ => []

/-- The path of the query module, if there is one and it is written. -/
def writtenQuery : Option Path :=
  match plan.query, r.refusal plan.queryPath with
  | some _, none => some plan.queryPath
  | _, _ => none

/-- The changes for the query module. -/
def queryChanges : List Change :=
  match plan.query with
  | none => []
  | some text => r.changes plan.queryPath text

/-- What a plan answers. -/
def answer : Outcome TagOutput :=
  ⟨plan.notices r, plan.endpoint.bind fun _ => (writtenBy r plan.endpointPath).map fun _ =>
    ⟨plan.tag, plan.endpointPath, plan.writtenQuery r, plan.functions⟩⟩

/-- The changes that a plan makes: none for an endpoint module that fails to render. -/
def changes : List Change :=
  plan.queryChanges r ++
    match plan.endpoint with
    | .error _ => []
    | .ok text => r.changes plan.endpointPath text

variable {plan r} in
/-- A plan writes its two files. -/
theorem writesIn_changes {place : Path → Prop} (hquery : place plan.queryPath)
    (hendpoint : place plan.endpointPath) : ∀ c ∈ plan.changes r, c.WritesIn place := by
  intro c hc
  unfold changes queryChanges at hc
  rcases List.mem_append.1 hc with hc | hc
  · split at hc
    · cases hc
    · exact Refusals.writesIn_changes hquery c hc
  · split at hc
    · cases hc
    · exact Refusals.writesIn_changes hendpoint c hc

variable {plan r} in
/-- What is reported on a plan is written. -/
theorem put_mem_changes {output : TagOutput} (h : (plan.answer r).result = .ok output) {p : Path}
    (hp : p ∈ output.paths) : ∃ text, .put p text ∈ plan.changes r := by
  simp only [answer, writtenBy] at h
  unfold changes queryChanges
  cases htext : plan.endpoint with
  | error e =>
    rw [htext] at h
    cases h
  | ok text =>
    cases hwritten : r.refusal plan.endpointPath with
    | some e =>
      rw [htext, hwritten] at h
      cases h
    | none =>
      rw [htext, hwritten] at h
      cases h
      rcases mem_paths.1 hp with hp | rfl
      · unfold writtenQuery at hp
        split at hp
        · rename_i query hquery hunrefused
          obtain rfl := Option.some.inj hp
          rw [hquery]
          exact ⟨query, List.mem_append_left _ (Refusals.put_mem_changes hunrefused query)⟩
        · cases hp
      · exact ⟨text, List.mem_append_right _ (Refusals.put_mem_changes hwritten text)⟩

theorem writeQuery_refusing (files : FileMap) :
    plan.writeQuery (refusing r) files =
      ((plan.notices r, plan.writtenQuery r), files.applyAll (plan.queryChanges r)) := by
  unfold writeQuery notices writtenQuery queryChanges
  cases plan.query with
  | none => rfl
  | some text =>
    simp only
    rw [bind_eq (writeModule_refusing r plan.queryPath text files), writtenBy]
    cases r.refusal plan.queryPath <;> rfl

/-- **A plan that is carried out answers and changes what was settled before.** -/
theorem write_refusing (files : FileMap) :
    plan.write (refusing r) files = (plan.answer r, files.applyAll (plan.changes r)) := by
  unfold write answer changes
  rw [bind_eq (plan.writeQuery_refusing r files)]
  cases plan.endpoint with
  | error e =>
    simp only [List.append_nil]
    rfl
  | ok text =>
    simp only
    rw [bind_eq (writeModule_refusing r plan.endpointPath text _), applyAll_append]
    rfl

end TagPlan

/-! ## Modules -/

namespace TagModule

/-- What the modules of a tag answer. -/
def answer (m : TagModule) (ctx : Context) (layout : OutputLayout) (modelTypes : List String)
    (r : Refusals) : Outcome (Option TagOutput) :=
  let o := m.plan ctx layout modelTypes
  match o.result with
  | .error e => ⟨o.notices, .error e⟩
  | .ok none => ⟨o.notices, .ok none⟩
  | .ok (some plan) => ((plan.answer r).map some).after o.notices

/-- The changes that the modules of a tag make. -/
def changes (m : TagModule) (ctx : Context) (layout : OutputLayout) (modelTypes : List String)
    (r : Refusals) : List Change :=
  match (m.plan ctx layout modelTypes).result with
  | .ok (some plan) => plan.changes r
  | _ => []

/-- What is reported on a tag, unless its modules fail. -/
def output (m : TagModule) (ctx : Context) (layout : OutputLayout)
    (modelTypes : List String) (r : Refusals) : Option TagOutput :=
  (m.answer ctx layout modelTypes r).result.toOption.join

section Plan

variable {m : TagModule} {plan : TagPlan}

theorem answer_of_no_plan (h : (m.plan ctx layout modelTypes).result = .ok none) :
    m.answer ctx layout modelTypes r = ⟨(m.plan ctx layout modelTypes).notices, .ok none⟩ := by
  simp only [answer, h]

theorem changes_of_no_plan (h : (m.plan ctx layout modelTypes).result = .ok none) :
    m.changes ctx layout modelTypes r = [] := by
  rw [changes, h]

theorem answer_of_plan (h : (m.plan ctx layout modelTypes).result = .ok (some plan)) :
    m.answer ctx layout modelTypes r =
      ((plan.answer r).map some).after (m.plan ctx layout modelTypes).notices := by
  simp only [answer, h]

theorem changes_of_plan (h : (m.plan ctx layout modelTypes).result = .ok (some plan)) :
    m.changes ctx layout modelTypes r = plan.changes r := by
  rw [changes, h]

end Plan

/-- **The modules of a tag answer and change what was settled before.** -/
theorem assemble_refusing (m : TagModule) (files : FileMap) :
    m.assemble ctx layout modelTypes (refusing r) files =
      (m.answer ctx layout modelTypes r, files.applyAll (m.changes ctx layout modelTypes r)) := by
  cases hr : (m.plan ctx layout modelTypes).result with
  | error e =>
    rw [assemble_of_error hr]
    simp only [answer, changes, hr]
    rfl
  | ok plan? =>
    cases plan? with
    | none =>
      rw [assemble_of_none hr, answer_of_no_plan hr, changes_of_no_plan hr]
      rfl
    | some plan =>
      rw [assemble_of_plan hr, answer_of_plan hr, changes_of_plan hr, plan.write_refusing]

/-- A tag is reported on with the paths of its plan. -/
theorem exists_plan_of_output {m : TagModule} {t : TagOutput}
    (ht : m.output ctx layout modelTypes r = some t) :
    ∃ plan, (m.plan ctx layout modelTypes).result = .ok (some plan) ∧
      (plan.answer r).result = .ok t := by
  unfold output at ht
  cases hplan : (m.plan ctx layout modelTypes).result with
  | error error =>
    simp only [answer, hplan] at ht
    cases ht
  | ok plan? =>
    cases plan? with
    | none =>
      rw [answer_of_no_plan hplan] at ht
      cases ht
    | some plan =>
      rw [answer_of_plan hplan] at ht
      simp only [Outcome.after, Outcome.map] at ht
      cases hanswer : (plan.answer r).result with
      | error error =>
        rw [hanswer] at ht
        cases ht
      | ok t' =>
        rw [hanswer] at ht
        exact ⟨plan, rfl, hanswer.trans (congrArg Except.ok (Option.some.inj ht))⟩

/-- What is reported on a tag is written. -/
theorem put_mem_changes {m : TagModule} {output : TagOutput}
    (h : m.output ctx layout modelTypes r = some output) {p : Path} (hp : p ∈ output.paths) :
    ∃ text, .put p text ∈ m.changes ctx layout modelTypes r := by
  obtain ⟨plan, hplan, hanswer⟩ := exists_plan_of_output h
  rw [changes_of_plan hplan]
  exact TagPlan.put_mem_changes hanswer hp

/-- The files of a tag. -/
def Files (layout : OutputLayout) (tag : String) (p : Path) : Prop :=
  ∃ file, p.parts = tagFile layout tag file

theorem files_endpointPath (ctx : Context) (layout : OutputLayout) (tag : String)
    (fs : List EmittedFunction) : Files layout tag (planOf ctx layout tag fs).endpointPath := by
  simp only [Files, planOf]
  exact ⟨_, parts_endpointPath layout tag⟩

theorem files_queryPath (ctx : Context) (layout : OutputLayout) (tag : String)
    (fs : List EmittedFunction) : Files layout tag (planOf ctx layout tag fs).queryPath := by
  simp only [Files, planOf]
  exact ⟨_, parts_queryPath layout tag⟩

/-- **The modules of a tag write in the directory of their tag.** -/
theorem writesIn_changes (m : TagModule) :
    ∀ c ∈ m.changes ctx layout modelTypes r, c.WritesIn (Files layout m.name) := by
  unfold changes
  split
  · rename_i plan hplan
    obtain ⟨fs, _, _, rfl⟩ := plan_eq_some_iff.1 hplan
    exact TagPlan.writesIn_changes (files_queryPath ctx layout m.name fs)
      (files_endpointPath ctx layout m.name fs)
  · exact nofun

end TagModule

/-! ## Modules one after the other -/

/-- What the modules of tags answer, one after the other; the first failure ends it. -/
def answerAll (ctx : Context) (layout : OutputLayout) (modelTypes : List String) (r : Refusals) :
    List TagModule → Outcome (List TagOutput)
  | [] => .pure []
  | m :: ms =>
    let o := m.answer ctx layout modelTypes r
    match o.result with
    | .error e => ⟨o.notices, .error e⟩
    | .ok output =>
      ((answerAll ctx layout modelTypes r ms).map (output.toList ++ ·)).after o.notices

/-- The changes that the modules of tags make, up to the first failure. -/
def changesAll (ctx : Context) (layout : OutputLayout) (modelTypes : List String) (r : Refusals) :
    List TagModule → List Change
  | [] => []
  | m :: ms =>
    m.changes ctx layout modelTypes r ++
      match (m.answer ctx layout modelTypes r).result with
      | .error _ => []
      | .ok _ => changesAll ctx layout modelTypes r ms

/-- **The modules of tags answer and change what was settled before.** -/
theorem assembleAll_refusing (ms : List TagModule) (files : FileMap) :
    assembleAll ctx layout modelTypes (refusing r) ms files =
      (answerAll ctx layout modelTypes r ms,
        files.applyAll (changesAll ctx layout modelTypes r ms)) := by
  induction ms generalizing files with
  | nil => rfl
  | cons m ms ih =>
    unfold assembleAll answerAll changesAll
    rw [bind_eq (m.assemble_refusing files)]
    cases hr : (m.answer ctx layout modelTypes r).result with
    | error e =>
      simp only [hr, List.append_nil]
      rfl
    | ok output =>
      simp only [hr]
      rw [bind_eq (ih _), applyAll_append]
      rfl

/-- The modules of tags write in the directories of their tags. -/
theorem writesIn_changesAll (ms : List TagModule) :
    ∀ c ∈ changesAll ctx layout modelTypes r ms,
      c.WritesIn fun p => ∃ m ∈ ms, TagModule.Files layout m.name p := by
  induction ms with
  | nil => exact nofun
  | cons m ms ih =>
    intro c hc
    rw [changesAll] at hc
    rcases List.mem_append.1 hc with hc | hc
    · exact (m.writesIn_changes c hc).mono fun p hp => ⟨m, List.mem_cons_self .., hp⟩
    · split at hc
      · cases hc
      · exact (ih c hc).mono fun p ⟨m', hm', hp⟩ => ⟨m', List.mem_cons_of_mem _ hm', hp⟩

variable {ms : List TagModule}

/-- **Modules are reported exactly if none of them fails**, and then each as it is alone. -/
theorem answerAll_eq_ok_iff {outputs : List TagOutput} :
    (answerAll ctx layout modelTypes r ms).result = .ok outputs ↔
      (∀ m ∈ ms, ∃ output, (m.answer ctx layout modelTypes r).result = .ok output) ∧
        outputs = ms.filterMap fun m => m.output ctx layout modelTypes r := by
  induction ms generalizing outputs with
  | nil =>
    simp only [answerAll, List.filterMap_nil]
    exact ⟨fun h => ⟨nofun, by cases h; rfl⟩, fun h => by rw [h.2]; rfl⟩
  | cons m ms ih =>
    rw [answerAll, List.forall_mem_cons]
    cases hr : (m.answer ctx layout modelTypes r).result with
    | error e => exact ⟨nofun, fun ⟨⟨⟨_, h⟩, _⟩, _⟩ => nomatch h⟩
    | ok output =>
      have houtput : (m :: ms).filterMap (fun m => m.output ctx layout modelTypes r) =
          output.toList ++ ms.filterMap fun m => m.output ctx layout modelTypes r := by
        rw [List.filterMap_cons, show m.output ctx layout modelTypes r = output by
          rw [TagModule.output, hr]; rfl]
        cases output <;> rfl
      simp only [Outcome.after]
      rw [Outcome.map_result_eq_ok, houtput]
      constructor
      · rintro ⟨rest, hrest, rfl⟩
        obtain ⟨hms, rfl⟩ := ih.1 hrest
        exact ⟨⟨⟨output, rfl⟩, hms⟩, rfl⟩
      · rintro ⟨⟨-, hms⟩, rfl⟩
        exact ⟨_, ih.2 ⟨hms, rfl⟩, rfl⟩

/-- Modules none of which fails make all their changes. -/
theorem changesAll_eq_flatMap
    (h : ∀ m ∈ ms, ∃ output, (m.answer ctx layout modelTypes r).result = .ok output) :
    changesAll ctx layout modelTypes r ms =
      ms.flatMap fun m => m.changes ctx layout modelTypes r := by
  induction ms with
  | nil => rfl
  | cons m ms ih =>
    obtain ⟨⟨output, hm⟩, hms⟩ := List.forall_mem_cons.1 h
    rw [changesAll, hm, List.flatMap_cons, ih hms]

/-- **What is reported on tags is written.** -/
theorem put_mem_changesAll {outputs : List TagOutput}
    (h : (answerAll ctx layout modelTypes r ms).result = .ok outputs) {output : TagOutput}
    (houtput : output ∈ outputs) {p : Path} (hp : p ∈ output.paths) :
    ∃ text, .put p text ∈ changesAll ctx layout modelTypes r ms := by
  obtain ⟨hms, rfl⟩ := answerAll_eq_ok_iff.1 h
  obtain ⟨m, hm, houtput⟩ := List.mem_filterMap.1 houtput
  obtain ⟨text, htext⟩ := TagModule.put_mem_changes houtput hp
  rw [changesAll_eq_flatMap hms]
  exact ⟨text, List.mem_flatMap.2 ⟨m, hm, htext⟩⟩

/-! ## A run -/

/-- What the model module of a run answers. -/
def modelAnswer (d : Document) (p : Path) (r : Refusals) : Outcome (Option Path) :=
  match modelModule? d with
  | none => ⟨[.noSchemas], .ok none⟩
  | some (notices, _) => ⟨notices, (writtenBy r p).map fun _ => some p⟩

/-- The changes that the model module of a run makes. -/
def modelChanges (d : Document) (p : Path) (r : Refusals) : List Change :=
  match modelModule? d with
  | none => []
  | some (_, module) => r.changes p module.text

theorem writeModelOfRun_refusing (d : Document) (p : Path) (r : Refusals) (files : FileMap) :
    writeModelOfRun d p (refusing r) files =
      (modelAnswer d p r, files.applyAll (modelChanges d p r)) := by
  unfold writeModelOfRun modelAnswer modelChanges
  cases modelModule? d with
  | none => rfl
  | some m =>
    simp only
    rw [bind_eq (writeModule_refusing r p m.2.text files)]
    rfl

theorem writesIn_modelChanges (d : Document) (p : Path) (r : Refusals) :
    ∀ c ∈ modelChanges d p r, c.WritesIn (· = p) := by
  unfold modelChanges
  split
  · exact nofun
  · exact Refusals.writesIn_changes rfl

/-- What the modules of all tags answer. -/
def tagsAnswer (d : Document) (ctx : Context) (layout : OutputLayout) (r : Refusals) :
    Outcome (List TagOutput) :=
  let o := extract d ctx
  match o.result with
  | .error e => ⟨o.notices, .error e⟩
  | .ok modules => (answerAll ctx layout (modelTypeNames d) r modules).after o.notices

/-- The changes that the modules of all tags make. -/
def tagsChanges (d : Document) (ctx : Context) (layout : OutputLayout) (r : Refusals) :
    List Change :=
  match (extract d ctx).result with
  | .error _ => []
  | .ok modules => changesAll ctx layout (modelTypeNames d) r modules

theorem writeTags_refusing (d : Document) (files : FileMap) :
    writeTags d ctx layout (refusing r) files =
      (tagsAnswer d ctx layout r, files.applyAll (tagsChanges d ctx layout r)) := by
  unfold writeTags tagsAnswer tagsChanges
  cases hr : (extract d ctx).result with
  | error e => simp only [hr]; rfl
  | ok modules =>
    simp only [hr]
    rw [bind_eq (assembleAll_refusing modules files)]
    rfl

/-- The modules of all tags write in the directories of tags. -/
theorem writesIn_tagsChanges (d : Document) :
    ∀ c ∈ tagsChanges d ctx layout r, c.WritesIn fun p => ∃ tag, TagModule.Files layout tag p := by
  unfold tagsChanges
  split
  · exact nofun
  · exact fun c hc => (writesIn_changesAll _ c hc).mono fun p ⟨m, _, hp⟩ => ⟨m.name, hp⟩

/-- What is reported on all tags is written. -/
theorem put_mem_tagsChanges {d : Document} {outputs : List TagOutput}
    (h : (tagsAnswer d ctx layout r).result = .ok outputs) {output : TagOutput}
    (houtput : output ∈ outputs) {p : Path} (hp : p ∈ output.paths) :
    ∃ text, .put p text ∈ tagsChanges d ctx layout r := by
  unfold tagsAnswer at h
  unfold tagsChanges
  cases hr : (extract d ctx).result with
  | error e =>
    simp only [hr] at h
    cases h
  | ok modules =>
    simp only [hr] at h
    exact put_mem_changesAll h houtput hp

/-- What a run answers. -/
def runAnswer (d : Document) (ctx : Context) (layout : OutputLayout) (r : Refusals) :
    Outcome Report :=
  match r.emptyDir layout.dir with
  | some e => .fail (.write layout.dir e)
  | none =>
    let model := modelAnswer d layout.model r
    match model.result with
    | .error e => ⟨model.notices, .error e⟩
    | .ok path => ((tagsAnswer d ctx layout r).map (Report.mk path)).after model.notices

/-- The changes that a run makes in its emptied directory. -/
def outputChanges (d : Document) (ctx : Context) (layout : OutputLayout) (r : Refusals) :
    List Change :=
  modelChanges d layout.model r ++
    match (modelAnswer d layout.model r).result with
    | .error _ => []
    | .ok _ => tagsChanges d ctx layout r

/-- The changes that a run makes: none if its directory cannot be emptied. -/
def runChanges (d : Document) (ctx : Context) (layout : OutputLayout) (r : Refusals) :
    List Change :=
  match r.emptyDir layout.dir with
  | some _ => []
  | none => .erase layout.dir :: outputChanges d ctx layout r

/-- **A run answers and changes what was settled before.** -/
theorem generate_refusing (d : Document) (files : FileMap) :
    generate d ctx layout (refusing r) files =
      (runAnswer d ctx layout r, files.applyAll (runChanges d ctx layout r)) := by
  unfold generate runAnswer runChanges
  cases hr : r.emptyDir layout.dir with
  | some e =>
    have hempty : (refusing r).emptyDir layout.dir files = (.error e, files) := by
      simp only [refusing, attempt, hr]
    rw [bind_eq hempty]
    rfl
  | none =>
    have hempty : (refusing r).emptyDir layout.dir files =
        (.ok (), files.eraseUnder layout.dir) := by
      simp only [refusing, attempt, hr]
      rfl
    rw [bind_eq hempty]
    simp only
    rw [bind_eq (writeModelOfRun_refusing d layout.model r _)]
    unfold outputChanges
    cases (modelAnswer d layout.model r).result with
    | error e =>
      simp only [List.append_nil]
      rfl
    | ok path =>
      simp only
      rw [bind_eq (writeTags_refusing d _), ← applyAll_append]
      rfl

end Request

end TypedRequests
