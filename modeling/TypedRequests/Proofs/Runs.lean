import TypedRequests.Proofs.Emission
import TypedRequests.Proofs.Files
import TypedRequests.Request.Generate

/-!
# Runs that end well

A run that ends well and misses no file has emptied the output directory and written what is
planned, in order. What it reports does not depend on the writer.

* `FileWriter.Writes` : texts are written one after the other, and none of them fails.
* `FileWriter.Unfailing` : no text ever fails to be written.
* `TagPlan.writes`, `TagPlan.output` : what a plan writes, and what is reported on it.
* `PlansOf` : the plans of a run.
* `Quiet` : notices that tell of no missing file.
* `assemble_of_error`, `assemble_of_none`, `assemble_of_plan` : one module, by its plan.
* `generate_planned` : what a run that ends well has done, and `generate_writes`, `generate_ok` for
  quiet runs and for files in memory.
* `generate_of_writes` : a run whose writes do not fail ends well, with the same report.
-/

set_option autoImplicit false

namespace TypedRequests

/-! ## Texts that are written -/

/-- All texts are written, one after the other. -/
inductive FileWriter.Writes {σ : Type} (w : FileWriter (StateM σ)) :
    σ → List (Path × String) → σ → Prop where
  | nil {s : σ} : Writes w s [] s
  | cons {s s' s'' : σ} {p : Path} {text : String} {ws : List (Path × String)}
      (h : w.write p text s = (.ok (), s')) (hs : Writes w s' ws s'') :
      Writes w s ((p, text) :: ws) s''

namespace FileWriter.Writes

variable {σ : Type} {w : FileWriter (StateM σ)} {s s' s'' : σ} {ws ws' : List (Path × String)}

theorem append (h : w.Writes s ws s') (h' : w.Writes s' ws' s'') : w.Writes s (ws ++ ws') s'' := by
  induction h with
  | nil => exact h'
  | cons hwrite _ ih => exact .cons hwrite (ih h')

theorem of_append (h : w.Writes s (ws ++ ws') s'') :
    ∃ s', w.Writes s ws s' ∧ w.Writes s' ws' s'' := by
  induction ws generalizing s with
  | nil => exact ⟨s, .nil, h⟩
  | cons v ws ih =>
    cases h with
    | cons hwrite hs =>
      obtain ⟨s', hs', hs''⟩ := ih hs
      exact ⟨s', .cons hwrite hs', hs''⟩

end FileWriter.Writes

/-- No text fails to be written. -/
def FileWriter.Unfailing {σ : Type} (w : FileWriter (StateM σ)) : Prop :=
  ∀ p text s, ∃ s', w.write p text s = (.ok (), s')

/-- Files in memory can always be written. -/
theorem FileMap.unfailing_writer : (FileMap.writer []).Unfailing :=
  fun _ _ _ => ⟨_, rfl⟩

/-- They are then the files with the texts. -/
theorem FileMap.writes_writer (m : FileMap) (ws : List (Path × String)) :
    (FileMap.writer []).Writes m ws (m.writeAll ws) := by
  induction ws generalizing m with
  | nil => exact .nil
  | cons v ws ih => exact .cons rfl (ih _)

theorem FileMap.eq_writeAll_of_writes {m m' : FileMap} {ws : List (Path × String)}
    (h : (FileMap.writer []).Writes m ws m') : m' = m.writeAll ws := by
  induction h with
  | nil => rfl
  | cons hwrite _ ih =>
    cases hwrite
    exact ih

namespace Request

open OpenApi

variable {d : Document} {ctx : Context} {layout : OutputLayout} {σ : Type}
  {w : FileWriter (StateM σ)} {s s' : σ}

/-! ## What is planned -/

/-- The texts that a plan writes, in order. -/
def TagPlan.writes (plan : TagPlan) : List (Path × String) :=
  (plan.query.map fun text => (plan.queryPath, text)).toList ++
    match plan.endpoint with
    | .ok text => [(plan.endpointPath, text)]
    | .error _ => []

/-- What is reported on a plan. -/
def TagPlan.output (plan : TagPlan) : TagOutput :=
  ⟨plan.tag, plan.endpointPath, plan.query.map fun _ => plan.queryPath, plan.functions⟩

/-- The plans of modules, in order. A module that is left without functions has none. -/
inductive PlansOf (ctx : Context) (layout : OutputLayout) (modelTypes : List String) :
    List TagModule → List TagPlan → Prop where
  | nil : PlansOf ctx layout modelTypes [] []
  | planned {m : TagModule} {ms : List TagModule} {plan : TagPlan} {plans : List TagPlan}
      (h : (m.plan ctx layout modelTypes).result = .ok (some plan))
      (hs : PlansOf ctx layout modelTypes ms plans) :
      PlansOf ctx layout modelTypes (m :: ms) (plan :: plans)
  | skipped {m : TagModule} {ms : List TagModule} {plans : List TagPlan}
      (h : (m.plan ctx layout modelTypes).result = .ok none)
      (hs : PlansOf ctx layout modelTypes ms plans) : PlansOf ctx layout modelTypes (m :: ms) plans

theorem PlansOf.mem {modelTypes : List String} {modules : List TagModule} {plans : List TagPlan}
    (h : PlansOf ctx layout modelTypes modules plans) {plan : TagPlan} (hplan : plan ∈ plans) :
    ∃ m ∈ modules, (m.plan ctx layout modelTypes).result = .ok (some plan) := by
  induction h with
  | nil => cases hplan
  | @planned m _ _ _ hm _ ih =>
    rcases List.mem_cons.1 hplan with rfl | hplan
    · exact ⟨m, List.mem_cons_self .., hm⟩
    · obtain ⟨m', hm', hresult⟩ := ih hplan
      exact ⟨m', List.mem_cons_of_mem _ hm', hresult⟩
  | skipped _ _ ih =>
    obtain ⟨m', hm', hresult⟩ := ih hplan
    exact ⟨m', List.mem_cons_of_mem _ hm', hresult⟩

/-- What a run writes of the model module. -/
def modelWrites (d : Document) (layout : OutputLayout) : List (Path × String) :=
  ((modelModule? d).map fun m => (layout.model, m.2.text)).toList

/-- No notice tells of a missing file. -/
def Quiet (notices : List Notice) : Prop :=
  ∀ n ∈ notices, n.level ≠ .error

/-- No file is missing: none can be, or no notice tells of one. -/
def Complete (w : FileWriter (StateM σ)) (notices : List Notice) : Prop :=
  w.Unfailing ∨ Quiet notices

theorem Complete.of_append {ns ns' : List Notice} (h : Complete w (ns ++ ns')) :
    Complete w ns ∧ Complete w ns' := by
  rcases h with hw | hquiet
  · exact ⟨.inl hw, .inl hw⟩
  · obtain ⟨hns, hns'⟩ := List.forall_mem_append.1 hquiet
    exact ⟨.inr hns, .inr hns'⟩

/-! ## Modules -/

/-- A module, with the error in the words of a run. -/
theorem writeModule_eq {p : Path} {text : String} {o : Except FileError Unit}
    (h : w.write p text s = (o, s')) :
    writeModule w p text s = (o.mapError (.write p), s') := by
  unfold writeModule
  rw [bind_eq h]
  rfl

theorem writes_of_writeModule {p : Path} {text : String}
    (h : writeModule w p text s = (.ok (), s')) : w.Writes s [(p, text)] s' := by
  cases hw : w.write p text s with
  | mk o s'' =>
    rw [writeModule_eq hw] at h
    obtain ⟨ho, rfl⟩ := Prod.mk.inj h
    cases o with
    | error e => cases ho
    | ok u => exact .cons hw .nil

theorem writeModule_of_writes {p : Path} {text : String} (h : w.Writes s [(p, text)] s') :
    writeModule w p text s = (.ok (), s') := by
  cases h with
  | cons hw hs =>
    cases hs with
    | nil => exact writeModule_eq hw

/-! ## Plans -/

theorem writeQuery_writes {plan : TagPlan} {ns : List Notice} {query : Option Path}
    (h : plan.writeQuery w s = ((ns, query), s')) (hns : Complete w ns) :
    query = (plan.query.map fun _ => plan.queryPath) ∧
      w.Writes s (plan.query.map fun text => (plan.queryPath, text)).toList s' := by
  unfold TagPlan.writeQuery at h
  cases hquery : plan.query with
  | none =>
    rw [hquery] at h
    cases h
    exact ⟨rfl, .nil⟩
  | some text =>
    rw [hquery] at h
    simp only at h
    cases hw : writeModule w plan.queryPath text s with
    | mk o s'' =>
      rw [bind_eq hw] at h
      cases o with
      | error e =>
        cases h
        rcases hns with hw' | hquiet
        · obtain ⟨s₁, hs₁⟩ := hw' plan.queryPath text s
          rw [writeModule_eq hs₁] at hw
          cases hw
        · exact absurd rfl (hquiet _ (List.mem_singleton.2 rfl))
      | ok u =>
        cases h
        exact ⟨rfl, writes_of_writeModule hw⟩

theorem writeQuery_of_writes {plan : TagPlan}
    (h : w.Writes s (plan.query.map fun text => (plan.queryPath, text)).toList s') :
    plan.writeQuery w s = (([], plan.query.map fun _ => plan.queryPath), s') := by
  unfold TagPlan.writeQuery
  cases hquery : plan.query with
  | none =>
    rw [hquery] at h
    cases h
    rfl
  | some text =>
    rw [hquery] at h
    simp only
    rw [bind_eq (writeModule_of_writes h)]
    rfl

/-- A plan that is carried out without a missing file is written and reported. -/
theorem TagPlan.write_writes {plan : TagPlan} {o : Outcome TagOutput} {output : TagOutput}
    (h : plan.write w s = (o, s')) (ho : o.result = .ok output) (hns : Complete w o.notices) :
    (∃ text, plan.endpoint = .ok text) ∧ output = plan.output ∧ w.Writes s plan.writes s' := by
  unfold TagPlan.write at h
  cases hq : plan.writeQuery w s with
  | mk nq s₁ =>
    obtain ⟨ns, query⟩ := nq
    rw [bind_eq hq] at h
    simp only at h
    cases hendpoint : plan.endpoint with
    | error e =>
      simp only [hendpoint] at h
      cases h
      cases ho
    | ok text =>
      simp only [hendpoint] at h
      cases hw : writeModule w plan.endpointPath text s₁ with
      | mk written s₂ =>
        rw [bind_eq hw] at h
        cases h
        obtain ⟨rfl, hquery⟩ := writeQuery_writes hq hns
        cases written with
        | error e => cases ho
        | ok u =>
          cases ho
          refine ⟨⟨text, rfl⟩, rfl, ?_⟩
          unfold TagPlan.writes
          rw [hendpoint]
          exact hquery.append (writes_of_writeModule hw)

theorem TagPlan.write_of_writes {plan : TagPlan} {text : String} (htext : plan.endpoint = .ok text)
    (h : w.Writes s plan.writes s') : plan.write w s = (⟨[], .ok plan.output⟩, s') := by
  unfold TagPlan.writes at h
  rw [htext] at h
  obtain ⟨s₁, hquery, hendpoint⟩ := h.of_append
  unfold TagPlan.write
  rw [bind_eq (writeQuery_of_writes hquery)]
  simp only [htext]
  rw [bind_eq (writeModule_of_writes hendpoint)]
  rfl

/-! ## Modules of tags -/

section Tags

variable {modelTypes : List String}

section Plan

variable {m : TagModule} {plan : TagPlan}

theorem assemble_of_error {e : GenerateError}
    (h : (m.plan ctx layout modelTypes).result = .error e) :
    m.assemble ctx layout modelTypes w s =
      (⟨(m.plan ctx layout modelTypes).notices, .error e⟩, s) := by
  unfold TagModule.assemble
  simp only [h]
  rfl

/-- A module without a plan writes nothing. -/
theorem assemble_of_none (h : (m.plan ctx layout modelTypes).result = .ok none) :
    m.assemble ctx layout modelTypes w s =
      (⟨(m.plan ctx layout modelTypes).notices, .ok none⟩, s) := by
  unfold TagModule.assemble
  simp only [h]
  rfl

theorem assemble_of_plan (h : (m.plan ctx layout modelTypes).result = .ok (some plan)) :
    m.assemble ctx layout modelTypes w s =
      (((plan.write w s).1.map some).after (m.plan ctx layout modelTypes).notices,
        (plan.write w s).2) := by
  unfold TagModule.assemble
  simp only [h]
  rfl

end Plan

/-- A module has no plan, or its plan is carried out. -/
theorem assemble_writes {m : TagModule} {o : Outcome (Option TagOutput)}
    {output : Option TagOutput} (h : m.assemble ctx layout modelTypes w s = (o, s'))
    (ho : o.result = .ok output) (hns : Complete w o.notices) :
    ((m.plan ctx layout modelTypes).result = .ok none ∧ output = none ∧ s' = s) ∨
      ∃ plan, (m.plan ctx layout modelTypes).result = .ok (some plan) ∧
        (∃ text, plan.endpoint = .ok text) ∧ output = some plan.output ∧
        w.Writes s plan.writes s' := by
  cases hr : (m.plan ctx layout modelTypes).result with
  | error e =>
    rw [assemble_of_error hr] at h
    cases h
    cases ho
  | ok plan? =>
    cases plan? with
    | none =>
      rw [assemble_of_none hr] at h
      cases h
      cases ho
      exact .inl ⟨rfl, rfl, rfl⟩
    | some plan =>
      rw [assemble_of_plan hr] at h
      cases h
      obtain ⟨result, hresult, rfl⟩ := Outcome.map_result_eq_ok.1 ho
      obtain ⟨htext, rfl, hwrites⟩ := TagPlan.write_writes rfl hresult hns.of_append.2
      exact .inr ⟨plan, rfl, htext, rfl, hwrites⟩

theorem assemble_of_writes {m : TagModule} {plan : TagPlan} {text : String}
    (hplan : (m.plan ctx layout modelTypes).result = .ok (some plan))
    (htext : plan.endpoint = .ok text) (h : w.Writes s plan.writes s') :
    ∃ ns, m.assemble ctx layout modelTypes w s = (⟨ns, .ok (some plan.output)⟩, s') := by
  rw [assemble_of_plan hplan, TagPlan.write_of_writes htext h]
  exact ⟨_, rfl⟩

/-- The plans of modules are carried out, and reported, by a run without a missing file. -/
theorem assembleAll_writes {modules : List TagModule} {o : Outcome (List TagOutput)}
    {outputs : List TagOutput} (h : assembleAll ctx layout modelTypes w modules s = (o, s'))
    (ho : o.result = .ok outputs) (hns : Complete w o.notices) :
    ∃ plans, PlansOf ctx layout modelTypes modules plans ∧
      (∀ plan ∈ plans, ∃ text, plan.endpoint = .ok text) ∧ outputs = plans.map TagPlan.output ∧
      w.Writes s (plans.flatMap TagPlan.writes) s' := by
  induction modules generalizing s o outputs with
  | nil =>
    cases h
    cases ho
    exact ⟨[], .nil, nofun, rfl, .nil⟩
  | cons m ms ih =>
    unfold assembleAll at h
    cases ha : m.assemble ctx layout modelTypes w s with
    | mk first s₁ =>
      rw [bind_eq ha] at h
      cases hr : first.result with
      | error e =>
        simp only [hr] at h
        cases h
        cases ho
      | ok output =>
        cases hs : assembleAll ctx layout modelTypes w ms s₁ with
        | mk rest s₂ =>
          simp only [hr] at h
          rw [bind_eq hs] at h
          cases h
          obtain ⟨outputs', hresult, rfl⟩ := Outcome.map_result_eq_ok.1 ho
          obtain ⟨hfirst, hrest⟩ := hns.of_append
          obtain ⟨plans, hplans, htexts, rfl, hwrites⟩ := ih hs hresult hrest
          rcases assemble_writes ha hr hfirst with ⟨hplan, rfl, rfl⟩ |
            ⟨plan, hplan, htext, rfl, hwrite⟩
          · exact ⟨plans, .skipped hplan hplans, htexts, rfl, hwrites⟩
          · exact ⟨plan :: plans, .planned hplan hplans, List.forall_mem_cons.2 ⟨htext, htexts⟩,
              rfl, hwrite.append hwrites⟩

/-- Modules whose plans can be written are all assembled. -/
theorem assembleAll_of_writes {modules : List TagModule} {plans : List TagPlan}
    (hplans : PlansOf ctx layout modelTypes modules plans)
    (htexts : ∀ plan ∈ plans, ∃ text, plan.endpoint = .ok text)
    (h : w.Writes s (plans.flatMap TagPlan.writes) s') :
    ∃ ns, assembleAll ctx layout modelTypes w modules s =
      (⟨ns, .ok (plans.map TagPlan.output)⟩, s') := by
  induction hplans generalizing s with
  | nil =>
    cases h
    exact ⟨[], rfl⟩
  | @planned m ms plan plans hplan _ ih =>
    obtain ⟨⟨text, htext⟩, htexts⟩ := List.forall_mem_cons.1 htexts
    obtain ⟨s₁, hfirst, hrest⟩ := FileWriter.Writes.of_append h
    obtain ⟨ns, hassemble⟩ := assemble_of_writes (m := m) hplan htext hfirst
    obtain ⟨ns', hall⟩ := ih htexts hrest
    unfold assembleAll
    rw [bind_eq hassemble]
    simp only
    rw [bind_eq hall]
    exact ⟨_, rfl⟩
  | @skipped m ms plans hplan _ ih =>
    obtain ⟨ns, hall⟩ := ih htexts h
    unfold assembleAll
    rw [bind_eq (assemble_of_none (m := m) hplan)]
    simp only
    rw [bind_eq hall]
    exact ⟨_, rfl⟩

end Tags

/-! ## Runs -/

theorem writeModelOfRun_writes {o : Outcome (Option Path)} {path : Option Path}
    (h : writeModelOfRun d layout.model w s = (o, s')) (ho : o.result = .ok path) :
    path = ((modelModule? d).map fun _ => layout.model) ∧ w.Writes s (modelWrites d layout) s' := by
  unfold writeModelOfRun at h
  unfold modelWrites
  cases hmodule : modelModule? d with
  | none =>
    rw [hmodule] at h
    cases h
    cases ho
    exact ⟨rfl, .nil⟩
  | some m =>
    rw [hmodule] at h
    simp only at h
    cases hw : writeModule w layout.model m.2.text s with
    | mk written s₁ =>
      rw [bind_eq hw] at h
      cases h
      cases written with
      | error e => cases ho
      | ok u =>
        cases ho
        exact ⟨rfl, writes_of_writeModule hw⟩

theorem writeModelOfRun_of_writes (h : w.Writes s (modelWrites d layout) s') :
    ∃ ns, writeModelOfRun d layout.model w s =
      (⟨ns, .ok ((modelModule? d).map fun _ => layout.model)⟩, s') := by
  unfold modelWrites at h
  unfold writeModelOfRun
  cases hmodule : modelModule? d with
  | none =>
    rw [hmodule] at h
    cases h
    exact ⟨_, rfl⟩
  | some m =>
    rw [hmodule] at h
    simp only
    rw [bind_eq (writeModule_of_writes h)]
    exact ⟨_, rfl⟩

/-- **A run that ends well without a missing file has emptied the directory and written its plans**,
in order, and reports them. -/
theorem generate_planned {o : Outcome Report} {report : Report}
    (h : generate d ctx layout w s = (o, s')) (ho : o.result = .ok report)
    (hns : Complete w o.notices) :
    ∃ modules plans s₀, (extract d ctx).result = .ok modules ∧
      PlansOf ctx layout (modelTypeNames d) modules plans ∧
      (∀ plan ∈ plans, ∃ text, plan.endpoint = .ok text) ∧
      report = ⟨(modelModule? d).map fun _ => layout.model, plans.map TagPlan.output⟩ ∧
      w.emptyDir layout.dir s = (.ok (), s₀) ∧
      w.Writes s₀ (modelWrites d layout ++ plans.flatMap TagPlan.writes) s' := by
  unfold generate at h
  cases hempty : w.emptyDir layout.dir s with
  | mk emptied s₀ =>
    rw [bind_eq hempty] at h
    cases emptied with
    | error e =>
      cases h
      cases ho
    | ok u =>
      simp only at h
      cases hmodel : writeModelOfRun d layout.model w s₀ with
      | mk model s₁ =>
        rw [bind_eq hmodel] at h
        cases hpath : model.result with
        | error e =>
          simp only [hpath] at h
          cases h
          cases ho
        | ok path =>
          simp only [hpath, writeTags] at h
          cases hmodules : (extract d ctx).result with
          | error e =>
            simp only [hmodules] at h
            cases h
            cases ho
          | ok modules =>
            simp only [hmodules, bind_assoc] at h
            cases hall : assembleAll ctx layout (modelTypeNames d) w modules s₁ with
            | mk rest s₂ =>
              rw [bind_eq hall] at h
              cases h
              obtain ⟨outputs, hresult, rfl⟩ := Outcome.map_result_eq_ok.1 ho
              obtain ⟨rfl, hfirst⟩ := writeModelOfRun_writes hmodel hpath
              obtain ⟨plans, hplans, htexts, rfl, hwrites⟩ :=
                assembleAll_writes hall hresult hns.of_append.2.of_append.2
              exact ⟨modules, plans, s₀, rfl, hplans, htexts, rfl, rfl, hfirst.append hwrites⟩

/-- A run that tells of no missing file. -/
theorem generate_writes {o : Outcome Report} {report : Report}
    (h : generate d ctx layout w s = (o, s')) (ho : o.result = .ok report) (hns : Quiet o.notices) :
    ∃ modules plans s₀, (extract d ctx).result = .ok modules ∧
      PlansOf ctx layout (modelTypeNames d) modules plans ∧
      (∀ plan ∈ plans, ∃ text, plan.endpoint = .ok text) ∧
      report = ⟨(modelModule? d).map fun _ => layout.model, plans.map TagPlan.output⟩ ∧
      w.emptyDir layout.dir s = (.ok (), s₀) ∧
      w.Writes s₀ (modelWrites d layout ++ plans.flatMap TagPlan.writes) s' :=
  generate_planned h ho (.inr hns)

/-- A run on files in memory. -/
theorem generate_ok {files files' : FileMap} {o : Outcome Report} {report : Report}
    (h : generate d ctx layout (FileMap.writer []) files = (o, files'))
    (ho : o.result = .ok report) :
    ∃ modules plans, (extract d ctx).result = .ok modules ∧
      PlansOf ctx layout (modelTypeNames d) modules plans ∧
      (∀ plan ∈ plans, ∃ text, plan.endpoint = .ok text) ∧
      report = ⟨(modelModule? d).map fun _ => layout.model, plans.map TagPlan.output⟩ ∧
      files' = (files.eraseUnder layout.dir).writeAll
        (modelWrites d layout ++ plans.flatMap TagPlan.writes) := by
  obtain ⟨modules, plans, emptied, hmodules, hplans, htexts, hreport, hempty, hwrites⟩ :=
    generate_planned h ho (.inl FileMap.unfailing_writer)
  cases hempty
  exact ⟨modules, plans, hmodules, hplans, htexts, hreport, FileMap.eq_writeAll_of_writes hwrites⟩

/-- **A run whose writes do not fail ends well**, and reports its plans. -/
theorem generate_of_writes {modules : List TagModule} {plans : List TagPlan} {s₀ : σ}
    (hmodules : (extract d ctx).result = .ok modules)
    (hplans : PlansOf ctx layout (modelTypeNames d) modules plans)
    (htexts : ∀ plan ∈ plans, ∃ text, plan.endpoint = .ok text)
    (hempty : w.emptyDir layout.dir s = (.ok (), s₀))
    (h : w.Writes s₀ (modelWrites d layout ++ plans.flatMap TagPlan.writes) s') :
    ∃ ns, generate d ctx layout w s =
      (⟨ns, .ok ⟨(modelModule? d).map fun _ => layout.model, plans.map TagPlan.output⟩⟩, s') := by
  obtain ⟨s₁, hfirst, hrest⟩ := h.of_append
  obtain ⟨ns, hmodel⟩ := writeModelOfRun_of_writes hfirst
  obtain ⟨ns', hall⟩ := assembleAll_of_writes hplans htexts hrest
  unfold generate
  rw [bind_eq hempty]
  simp only
  rw [bind_eq hmodel]
  simp only [writeTags, hmodules, bind_assoc]
  rw [bind_eq hall]
  exact ⟨_, rfl⟩

end Request

end TypedRequests
