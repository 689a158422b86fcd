import TypedRequests.Proofs.Casing
import TypedRequests.Proofs.FirstUse
import TypedRequests.Proofs.Paths
import TypedRequests.Proofs.Runs

/-!
# Which files of a run survive

Each tag writes into a directory of its own name in lower camel case, so that two tags may share
one. What a run reports is what it leaves behind exactly if no tags do, and if none of their files
is the model module.

* `parts_endpointPath`, `parts_queryPath` : where the files of a tag are.
* `Report.paths`, `map_fst_writes` : a run reports the files that it writes.
* `Separate` : no file of a run has the place of another.
* `PlansOf.endpoint_survives` : an endpoint file has the functions of the last tag of its directory.
* `Wrote` : what becomes of files in a run, reported ones and others.
* `Intact` : every reported file is there as it was written.
* `intact_iff_separate` : a run leaves its files intact exactly if they are separate.
-/

set_option autoImplicit false

namespace TypedRequests

/-- The directory of a tag is a plain name. -/
theorem Naming.plainName_tagDirectory (tag : String) : PlainName (Naming.tagDirectory tag) := by
  obtain ⟨hne, hchars⟩ := Naming.tagDirectory_spec tag
  refine ⟨fun hslash => ?_, hne, fun hhere => ?_, fun hup => ?_⟩
  · exact absurd (hchars '/' hslash) (by decide)
  · rw [hhere] at hchars
    exact absurd (hchars '.' (by decide)) (by decide)
  · rw [hup] at hchars
    exact absurd (hchars '.' (by decide)) (by decide)

namespace Request

open OpenApi

variable {d : Document} {ctx : Context} {layout : OutputLayout} {files files' : FileMap}

/-! ## Places -/

theorem plainName_index : PlainName "index.ts" :=
  ⟨by decide, by decide, by decide, by decide⟩

theorem plainName_model : PlainName "model.ts" :=
  ⟨by decide, by decide, by decide, by decide⟩

/-- The parts of a file of a tag. -/
def tagFile (layout : OutputLayout) (tag file : String) : List PathPart :=
  layout.dir.parts ++ [.name (Naming.tagDirectory tag), .name file]

theorem tagFile_eq_iff {tag tag' file file' : String} :
    tagFile layout tag file = tagFile layout tag' file' ↔
      Naming.tagDirectory tag = Naming.tagDirectory tag' ∧ file = file' := by
  simp [tagFile]

theorem parts_endpointPath (layout : OutputLayout) (tag : String) :
    ((tagDir layout tag).join endpointFile).parts = tagFile layout tag "index.ts" := by
  rw [endpointFile, Path.parts_join _ plainName_index, tagDir,
    Path.parts_join _ (Naming.plainName_tagDirectory tag), List.append_assoc]
  rfl

theorem parts_queryPath (layout : OutputLayout) (tag : String) :
    ((tagDir layout tag).join queryFile).parts = tagFile layout tag "model.ts" := by
  rw [queryFile, Path.parts_join _ plainName_model, tagDir,
    Path.parts_join _ (Naming.plainName_tagDirectory tag), List.append_assoc]
  rfl

/-- The files of a plan are in the directory of its tag. -/
theorem PlansOf.places {modelTypes : List String} {modules : List TagModule}
    {plans : List TagPlan} (h : PlansOf ctx layout modelTypes modules plans) {plan : TagPlan}
    (hplan : plan ∈ plans) :
    plan.endpointPath.parts = tagFile layout plan.tag "index.ts" ∧
      plan.queryPath.parts = tagFile layout plan.tag "model.ts" := by
  obtain ⟨m, _, hm⟩ := h.mem hplan
  obtain ⟨fs, _, _, rfl⟩ := plan_eq_some_iff.1 hm
  simp only [planOf]
  exact ⟨parts_endpointPath layout m.name, parts_queryPath layout m.name⟩

/-! ## Reported files -/

/-- The files that are reported on a tag, in the order in which they are written. -/
def TagOutput.paths (t : TagOutput) : List Path :=
  t.query.toList ++ [t.endpoint]

/-- The files that are reported, in the order in which they are written. -/
def Report.paths (r : Report) : List Path :=
  r.model.toList ++ r.tags.flatMap TagOutput.paths

theorem TagOutput.fileCount_eq (t : TagOutput) : t.fileCount = t.paths.length := by
  obtain ⟨tag, endpoint, query, functions⟩ := t
  cases query <;> rfl

theorem Report.fileCount_eq (r : Report) : r.fileCount = r.paths.length := by
  obtain ⟨model, tags⟩ := r
  simp only [Report.fileCount, Report.paths, List.length_append]
  induction tags with
  | nil => cases model <;> rfl
  | cons t ts ih =>
    rw [List.foldr_cons, ih, List.flatMap_cons, List.length_append, TagOutput.fileCount_eq]
    omega

theorem TagPlan.map_fst_writes {plan : TagPlan} {text : String} (h : plan.endpoint = .ok text) :
    plan.writes.map Prod.fst = plan.output.paths := by
  obtain ⟨tag, queryPath, query, endpointPath, endpoint, functions⟩ := plan
  simp only at h
  subst h
  cases query <;> rfl

/-- **A run reports the files that it writes.** -/
theorem map_fst_writes (d : Document) (layout : OutputLayout) {plans : List TagPlan}
    (h : ∀ plan ∈ plans, ∃ text, plan.endpoint = .ok text) :
    (modelWrites d layout ++ plans.flatMap TagPlan.writes).map Prod.fst =
      Report.paths ⟨(modelModule? d).map fun _ => layout.model, plans.map TagPlan.output⟩ := by
  rw [List.map_append, Report.paths, List.flatMap_map, List.map_flatMap]
  congr 1
  · unfold modelWrites
    cases modelModule? d <;> rfl
  · induction plans with
    | nil => rfl
    | cons plan plans ih =>
      obtain ⟨⟨text, htext⟩, hplans⟩ := List.forall_mem_cons.1 h
      rw [List.flatMap_cons, List.flatMap_cons, ih hplans, TagPlan.map_fst_writes htext]

/-! ## Separate files -/

/-- No file of a run has the place of another: tags have directories of their own, and the model
module is none of their files. -/
structure Separate (layout : OutputLayout) (report : Report) : Prop where
  directories : (report.tags.map fun t => Naming.tagDirectory t.tag).Nodup
  endpoints : report.model.isSome = true → ∀ t ∈ report.tags,
    layout.model.parts ≠ tagFile layout t.tag "index.ts"
  queries : report.model.isSome = true → ∀ t ∈ report.tags, t.query.isSome = true →
    layout.model.parts ≠ tagFile layout t.tag "model.ts"

/-- The reported files are where a run puts them. -/
structure Placed (layout : OutputLayout) (report : Report) : Prop where
  model : ∀ p ∈ report.model, p = layout.model
  endpoints : ∀ t ∈ report.tags, t.endpoint.parts = tagFile layout t.tag "index.ts"
  queries : ∀ t ∈ report.tags, ∀ p ∈ t.query, p.parts = tagFile layout t.tag "model.ts"

theorem mem_paths {t : TagOutput} {p : Path} : p ∈ t.paths ↔ p ∈ t.query ∨ p = t.endpoint := by
  simp [TagOutput.paths]

section Pairwise

variable {report : Report} {t t' : TagOutput} {p q : Path}

/-- A file that is reported on a tag is one of its two files. -/
theorem Placed.parts_of_mem (h : Placed layout report) (ht : t ∈ report.tags) (hp : p ∈ t.paths) :
    ∃ file, p.parts = tagFile layout t.tag file := by
  rcases mem_paths.1 hp with hp | rfl
  · exact ⟨_, h.queries t ht p hp⟩
  · exact ⟨_, h.endpoints t ht⟩

/-- The files of one tag have different paths. -/
theorem Placed.pairwise_tag (h : Placed layout report) (ht : t ∈ report.tags) :
    t.paths.Pairwise fun p q => p.parts ≠ q.parts := by
  unfold TagOutput.paths
  refine List.pairwise_append.2 ⟨?_, List.pairwise_singleton _ _, fun p hp q hq => ?_⟩
  · cases t.query with
    | none => exact List.Pairwise.nil
    | some p => exact List.pairwise_singleton _ _
  · obtain rfl := List.mem_singleton.1 hq
    rw [h.queries t ht p (Option.mem_toList.1 hp), h.endpoints t ht, Ne, tagFile_eq_iff]
    exact fun he => absurd he.2 (by decide)

/-- The files of two tags have different paths exactly if the tags have different directories. -/
theorem Placed.pairwise_tags (h : Placed layout report) (ht : t ∈ report.tags)
    (ht' : t' ∈ report.tags) :
    (∀ p ∈ t.paths, ∀ q ∈ t'.paths, p.parts ≠ q.parts) ↔
      Naming.tagDirectory t.tag ≠ Naming.tagDirectory t'.tag := by
  constructor
  · intro hne he
    apply hne t.endpoint (mem_paths.2 (Or.inr rfl)) t'.endpoint (mem_paths.2 (Or.inr rfl))
    rw [h.endpoints t ht, h.endpoints t' ht', tagFile_eq_iff]
    exact ⟨he, rfl⟩
  · intro hne p hp q hq he
    obtain ⟨file, hp⟩ := h.parts_of_mem ht hp
    obtain ⟨file', hq⟩ := h.parts_of_mem ht' hq
    rw [hp, hq] at he
    exact hne (tagFile_eq_iff.1 he).1

/-- **Files that are placed have different paths exactly if they are separate.** -/
theorem Placed.pairwise_iff (h : Placed layout report) :
    (report.paths.Pairwise fun p q => p.parts ≠ q.parts) ↔ Separate layout report := by
  have htags : (report.tags.flatMap TagOutput.paths).Pairwise (fun p q => p.parts ≠ q.parts) ↔
      (report.tags.map fun t => Naming.tagDirectory t.tag).Nodup := by
    rw [List.pairwise_flatMap, List.Nodup, List.pairwise_map]
    refine ⟨fun hpw => ?_, fun hnd => ⟨fun t ht => h.pairwise_tag ht, ?_⟩⟩
    · exact hpw.2.imp_of_mem fun ht ht' => (h.pairwise_tags ht ht').1
    · exact hnd.imp_of_mem fun ht ht' => (h.pairwise_tags ht ht').2
  unfold Report.paths
  rw [List.pairwise_append, htags]
  constructor
  · rintro ⟨_, hnd, hmodel⟩
    have hmodel' : report.model.isSome = true → ∀ t ∈ report.tags, ∀ p ∈ t.paths,
        layout.model.parts ≠ p.parts := by
      intro hsome t ht p hp
      obtain ⟨p', hp'⟩ := Option.isSome_iff_exists.1 hsome
      rw [← h.model p' hp']
      exact hmodel p' (Option.mem_toList.2 hp') p (List.mem_flatMap.2 ⟨t, ht, hp⟩)
    refine ⟨hnd, fun hsome t ht => ?_, fun hsome t ht hq => ?_⟩
    · rw [← h.endpoints t ht]
      exact hmodel' hsome t ht _ (mem_paths.2 (Or.inr rfl))
    · obtain ⟨q, hq⟩ := Option.isSome_iff_exists.1 hq
      rw [← h.queries t ht q hq]
      exact hmodel' hsome t ht _ (mem_paths.2 (Or.inl hq))
  · intro hs
    refine ⟨?_, hs.directories, fun p hp q hq => ?_⟩
    · cases report.model with
      | none => exact List.Pairwise.nil
      | some p => exact List.pairwise_singleton _ _
    · have hp := Option.mem_toList.1 hp
      have hsome : report.model.isSome = true := Option.isSome_iff_exists.2 ⟨p, hp⟩
      obtain ⟨t, ht, hq⟩ := List.mem_flatMap.1 hq
      rw [h.model p hp]
      rcases mem_paths.1 hq with hq | rfl
      · rw [h.queries t ht q hq]
        exact hs.queries hsome t ht (Option.isSome_iff_exists.2 ⟨q, hq⟩)
      · rw [h.endpoints t ht]
        exact hs.endpoints hsome t ht

end Pairwise

/-! ## What a run leaves behind -/

section Survival

variable {modelTypes : List String} {modules : List TagModule} {plans : List TagPlan}

/-- A plan writes only files of its tag. -/
theorem PlansOf.parts_of_mem_writes (h : PlansOf ctx layout modelTypes modules plans)
    {plan : TagPlan} (hplan : plan ∈ plans) {w : Path × String} (hw : w ∈ plan.writes) :
    ∃ file, w.1.parts = tagFile layout plan.tag file := by
  obtain ⟨hendpoint, hquery⟩ := h.places hplan
  unfold TagPlan.writes at hw
  rcases List.mem_append.1 hw with hw | hw
  · obtain ⟨text, _, rfl⟩ := Option.map_eq_some_iff.1 (Option.mem_toList.1 hw)
    exact ⟨_, hquery⟩
  · split at hw
    · obtain rfl := List.mem_singleton.1 hw
      exact ⟨_, hendpoint⟩
    · cases hw

/-- **An endpoint file has the functions of the last tag of its directory**, whatever else is
written. -/
theorem PlansOf.endpoint_survives (h : PlansOf ctx layout modelTypes modules plans)
    {before after : List TagPlan} {plan : TagPlan} (hplans : plans = before ++ plan :: after)
    (hafter : ∀ p ∈ after, Naming.tagDirectory p.tag ≠ Naming.tagDirectory plan.tag)
    {text : String} (htext : plan.endpoint = .ok text) (ws : List (Path × String)) :
    (files.writeAll (ws ++ plans.flatMap TagPlan.writes)).find? plan.endpointPath = some text := by
  have hmem : plan ∈ plans := hplans ▸ List.mem_append_right _ (List.mem_cons_self ..)
  have hws : ws ++ plans.flatMap TagPlan.writes =
      (ws ++ before.flatMap TagPlan.writes ++
        (plan.query.map fun text => (plan.queryPath, text)).toList) ++
      (plan.endpointPath, text) :: after.flatMap TagPlan.writes := by
    rw [hplans, List.flatMap_append, List.flatMap_cons]
    simp [TagPlan.writes, htext]
  refine FileMap.find?_writeAll_of_last hws rfl fun w hw he => ?_
  obtain ⟨p, hp, hw⟩ := List.mem_flatMap.1 hw
  have hp' : p ∈ plans := by
    rw [hplans]
    exact List.mem_append_right _ (List.mem_cons_of_mem _ hp)
  obtain ⟨file, hfile⟩ := h.parts_of_mem_writes hp' hw
  rw [hfile, (h.places hmem).1] at he
  exact hafter p hp (tagFile_eq_iff.1 he).1

end Survival

/-- The reported files of planned modules are placed. -/
theorem PlansOf.placed {modelTypes : List String} {modules : List TagModule}
    {plans : List TagPlan} (h : PlansOf ctx layout modelTypes modules plans) :
    Placed layout ⟨(modelModule? d).map fun _ => layout.model, plans.map TagPlan.output⟩ := by
  refine ⟨fun p hp => ?_, fun t ht => ?_, fun t ht p hp => ?_⟩
  · obtain ⟨_, _, rfl⟩ := Option.map_eq_some_iff.1 hp
    rfl
  · obtain ⟨plan, hplan, rfl⟩ := List.mem_map.1 ht
    exact (h.places hplan).1
  · obtain ⟨plan, hplan, rfl⟩ := List.mem_map.1 ht
    obtain ⟨_, _, rfl⟩ := Option.map_eq_some_iff.1 hp
    exact (h.places hplan).2

/-- The texts that a run writes, in order. -/
def runWrites (d : Document) (layout : OutputLayout) (plans : List TagPlan) :
    List (Path × String) :=
  modelWrites d layout ++ plans.flatMap TagPlan.writes

/-- After a run the reported files are there, and others are as they were, outside its directory. -/
structure Wrote (layout : OutputLayout) (report : Report) (files files' : FileMap) : Prop where
  reported : ∀ p ∈ report.paths, (files'.find? p).isSome = true
  others : ∀ q, (∀ p ∈ report.paths, p.parts ≠ q.parts) →
    files'.find? q = if q.startsWith layout.dir then none else files.find? q

/-- What is written one after the other below an emptied directory is what a report of it says. -/
theorem wrote_of_writeAll {report : Report} {ws : List (Path × String)}
    (h : report.paths = ws.map Prod.fst) (files : FileMap) (layout : OutputLayout) :
    Wrote layout report files ((files.eraseUnder layout.dir).writeAll ws) := by
  refine ⟨fun p hp => ?_, fun q hq => ?_⟩
  · rw [h] at hp
    obtain ⟨w, hw, rfl⟩ := List.mem_map.1 hp
    exact FileMap.isSome_find?_writeAll ⟨w, hw, rfl⟩
  · rw [FileMap.find?_writeAll_of_absent, FileMap.find?_eraseUnder]
    intro w hw
    exact hq w.1 (h ▸ List.mem_map_of_mem hw)

/-- A run leaves its files intact: those that it reports are different ones, it counts as many as
it has written, and every endpoint file has the text for its tag. -/
structure Intact (d : Document) (layout : OutputLayout) (report : Report) (plans : List TagPlan)
    (files' : FileMap) : Prop where
  distinct : report.paths.Pairwise fun p q => p.parts ≠ q.parts
  count : report.fileCount =
    ((runWrites d layout plans).map fun w => w.1.parts).eraseDups.length
  endpoints : ∀ plan ∈ plans, ∃ text, plan.endpoint = .ok text ∧
    files'.find? plan.endpointPath = some text

/-- What is planned is left intact exactly if it is separate. -/
theorem PlansOf.intact_iff {modelTypes : List String} {modules : List TagModule}
    {plans : List TagPlan} (h : PlansOf ctx layout modelTypes modules plans)
    (htexts : ∀ plan ∈ plans, ∃ text, plan.endpoint = .ok text) (d : Document)
    (files : FileMap) {report : Report}
    (hreport : report = ⟨(modelModule? d).map fun _ => layout.model, plans.map TagPlan.output⟩) :
    Intact d layout report plans (files.writeAll (runWrites d layout plans)) ↔
      Separate layout report := by
  subst hreport
  have hpaths := map_fst_writes d layout htexts
  refine ⟨fun hi => h.placed.pairwise_iff.1 hi.distinct, fun hs => ?_⟩
  have hdistinct := h.placed.pairwise_iff.2 hs
  refine ⟨hdistinct, ?_, fun plan hplan => ?_⟩
  · have hnodup : ((runWrites d layout plans).map fun w => w.1.parts).Nodup := by
      rw [← hpaths, List.pairwise_map] at hdistinct
      rw [List.Nodup, List.pairwise_map]
      exact hdistinct
    rw [eraseDups_of_nodup hnodup, Report.fileCount_eq, ← hpaths, List.length_map, List.length_map]
    rfl
  · obtain ⟨text, htext⟩ := htexts plan hplan
    obtain ⟨before, after, heq⟩ := List.append_of_mem hplan
    refine ⟨text, htext, h.endpoint_survives heq (fun p hp he => ?_) htext _⟩
    -- a later tag of the same directory would be a second one with it
    have hdirs := hs.directories
    simp only [heq, List.map_append, List.map_cons] at hdirs
    have hnot := (List.nodup_cons.1 (List.nodup_append.1 hdirs).2.1).1
    exact hnot (List.mem_map.2 ⟨p.output, List.mem_map_of_mem hp, he⟩)

/-- **A run leaves its files intact exactly if they are separate.** In any case it reports what it
has written, and an endpoint file has the text for the last tag of its directory. -/
theorem intact_iff_separate {o : Outcome Report} {report : Report}
    (h : generate d ctx layout (FileMap.writer []) files = (o, files'))
    (ho : o.result = .ok report) :
    ∃ modules plans, (extract d ctx).result = .ok modules ∧
      PlansOf ctx layout (modelTypeNames d) modules plans ∧
      report.tags = plans.map TagPlan.output ∧
      report.paths = (runWrites d layout plans).map Prod.fst ∧
      files' = (files.eraseUnder layout.dir).writeAll (runWrites d layout plans) ∧
      Wrote layout report files files' ∧
      (Intact d layout report plans files' ↔ Separate layout report) ∧
      ∀ before plan after, plans = before ++ plan :: after →
        (∀ p ∈ after, Naming.tagDirectory p.tag ≠ Naming.tagDirectory plan.tag) →
          ∃ text, plan.endpoint = .ok text ∧ files'.find? plan.endpointPath = some text := by
  obtain ⟨modules, plans, hmodules, hplans, htexts, hreport, rfl⟩ := generate_ok h ho
  have hpaths : report.paths = (runWrites d layout plans).map Prod.fst := by
    rw [hreport]
    exact (map_fst_writes d layout htexts).symm
  refine ⟨modules, plans, hmodules, hplans, by rw [hreport], hpaths, rfl,
    wrote_of_writeAll hpaths files layout, hplans.intact_iff htexts d _ hreport, ?_⟩
  intro before plan after heq hafter
  obtain ⟨text, htext⟩ := htexts plan (heq ▸ List.mem_append_right _ (List.mem_cons_self ..))
  exact ⟨text, htext, hplans.endpoint_survives heq hafter htext _⟩

/-! ## Two tags -/

/-- A document with an operation for each of two tags. -/
def twoTags (tag tag' : String) : Document :=
  let item := fun tag => PathItem.mk (.ofPairs [(.get, ⟨[tag], none, none, [], none, .empty⟩)]) []
  { Document.empty with paths := .ofPairs [("/pets", item tag), ("/toys", item tag')] }

/-- A layout below `api`. -/
def apiLayout : OutputLayout :=
  ⟨⟨"api"⟩, ⟨"api/model.ts"⟩⟩

/-- A run on the document with two tags, from no files. -/
def runTwoTags (tag tag' : String) : Outcome Report × FileMap :=
  generate (twoTags tag tag') (.ofTemplate fun call => .ok call.url) apiLayout
    (FileMap.writer []) .empty

theorem result_runTwoTags (tag tag' : String) (report : Report)
    (h : (runTwoTags tag tag').1.result.toOption = some report) :
    (runTwoTags tag tag').1.result = .ok report := by
  cases hr : (runTwoTags tag tag').1.result with
  | error e =>
    rw [hr] at h
    cases h
  | ok r =>
    rw [hr] at h
    cases h
    rfl

/-- Two tags with directories of their own keep their files. -/
theorem intact_two_tags :
    ∃ report plans, (runTwoTags "Pets" "Toys").1.result = .ok report ∧
      report.tags = plans.map TagPlan.output ∧
      Intact (twoTags "Pets" "Toys") apiLayout report plans (runTwoTags "Pets" "Toys").2 := by
  have hresult := result_runTwoTags "Pets" "Toys" ⟨none,
    [⟨"Pets", ⟨"api/pets/index.ts"⟩, none, 1⟩, ⟨"Toys", ⟨"api/toys/index.ts"⟩, none, 1⟩]⟩
    (by decide +kernel)
  have hrun : generate (twoTags "Pets" "Toys") (.ofTemplate fun call => .ok call.url) apiLayout
      (FileMap.writer []) .empty =
        ((runTwoTags "Pets" "Toys").1, (runTwoTags "Pets" "Toys").2) := rfl
  obtain ⟨_, plans, _, _, htags, _, _, _, hiff, _⟩ := intact_iff_separate hrun hresult
  exact ⟨_, plans, hresult, htags, hiff.2 ⟨by decide +kernel, nofun, nofun⟩⟩

/-- Two tags whose names differ in case share one file, and the functions of the first are lost. -/
theorem two_tags_share_file :
    ∃ report, (runTwoTags "Pets" "pets").1.result = .ok report ∧
      report.paths = [⟨"api/pets/index.ts"⟩, ⟨"api/pets/index.ts"⟩] ∧
      (¬ report.paths.Pairwise fun p q => p.parts ≠ q.parts) ∧
      report.fileCount = 2 ∧ report.functionCount = 2 ∧
      (runTwoTags "Pets" "pets").2 = ⟨[(⟨"api/pets/index.ts"⟩,
        "export function getToys() \x7b\n  return \"/toys\";\n\x7d\n")]⟩ := by
  have hresult := result_runTwoTags "Pets" "pets" ⟨none,
    [⟨"Pets", ⟨"api/pets/index.ts"⟩, none, 1⟩, ⟨"pets", ⟨"api/pets/index.ts"⟩, none, 1⟩]⟩
    (by decide +kernel)
  exact ⟨_, hresult, by decide +kernel, by decide +kernel, rfl, rfl, by decide +kernel⟩

end Request

end TypedRequests
