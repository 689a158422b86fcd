import TypedRequests.Proofs.Footprints

/-!
# Runs over earlier output

A run never looks at the files that are there. What it answers and what it changes is settled before
it begins, so that it replaces its output whatever was there, and changes nothing when it is done
again.

* `InOutput`, `inOutput_of_touches` : a run touches only its output.
* `Regenerates`, `regenerates` : what this means for files that are there before a run.
-/

set_option autoImplicit false

namespace TypedRequests.Request

open OpenApi FileMap

variable {d : Document} {ctx : Context} {layout : OutputLayout} {r : Refusals} {q : Path}

/-! ## The output of a run -/

/-- What a run may touch: the files in its directory, and the model module. -/
def InOutput (layout : OutputLayout) (q : Path) : Prop :=
  q.startsWith layout.dir = true ∨ layout.model.parts = q.parts

theorem inOutput_tagFile {tag file : String} (h : tagFile layout tag file = q.parts) :
    InOutput layout q := by
  refine Or.inl ?_
  rw [Path.startsWith, ← h, List.isPrefixOf_iff_prefix]
  exact List.prefix_append _ _

theorem inOutput_of_touches_outputChanges {c : Change} (hc : c ∈ outputChanges d ctx layout r)
    (ht : c.Touches q) : InOutput layout q := by
  rcases List.mem_append.1 hc with hc | hc
  · obtain ⟨_, rfl, hq⟩ := (writesIn_modelChanges d layout.model r c hc).exists_of_touches ht
    exact Or.inr hq
  · split at hc
    · cases hc
    · obtain ⟨p, ⟨tag, file, hp⟩, hq⟩ := (writesIn_tagsChanges d c hc).exists_of_touches ht
      exact inOutput_tagFile (hp.symm.trans hq)

/-- **A run touches only its output.** -/
theorem inOutput_of_touches {c : Change} (hc : c ∈ runChanges d ctx layout r)
    (ht : c.Touches q) : InOutput layout q := by
  unfold runChanges at hc
  split at hc
  · cases hc
  · rcases List.mem_cons.1 hc with rfl | hc
    · exact Or.inl ht
    · exact inOutput_of_touches_outputChanges hc ht

/-! ## Files that are there before a run -/

/-- A run replaces its output and nothing else, whatever files are there before. -/
structure Regenerates (d : Document) (ctx : Context) (layout : OutputLayout)
    (w : FileWriter (StateM FileMap)) : Prop where
  /-- The outcome does not depend on the files. -/
  outcome : ∀ files₁ files₂ : FileMap,
    (generate d ctx layout w files₁).1 = (generate d ctx layout w files₂).1
  /-- If the directory can be emptied, what lies in it afterwards does not depend on the files
  either, however the run ends. -/
  directory : ∀ files₁ files₂ : FileMap, (w.emptyDir layout.dir files₁).1 = .ok () →
    ∀ q : Path, q.startsWith layout.dir = true →
      (generate d ctx layout w files₁).2.find? q = (generate d ctx layout w files₂).2.find? q
  /-- Otherwise the files stay as they are. -/
  refused : ∀ files : FileMap, (w.emptyDir layout.dir files).1 ≠ .ok () →
    (generate d ctx layout w files).2 = files
  /-- Files outside the directory stay as they are, except for the model module. -/
  others : ∀ (files : FileMap) (q : Path), q.startsWith layout.dir = false →
    q.parts ≠ layout.model.parts →
      (generate d ctx layout w files).2.find? q = files.find? q
  /-- A second run changes no file. -/
  again : ∀ (files : FileMap) (q : Path),
    (generate d ctx layout w (generate d ctx layout w files).2).2.find? q =
      (generate d ctx layout w files).2.find? q

theorem emptyDir_ok_iff {r : Refusals} {dir : Path} {files : FileMap} :
    ((refusing r).emptyDir dir files).1 = .ok () ↔ r.emptyDir dir = none := by
  cases hr : r.emptyDir dir <;> simp [refusing, attempt, hr]

theorem regenerates_refusing (d : Document) (ctx : Context) (layout : OutputLayout)
    (r : Refusals) : Regenerates d ctx layout (refusing r) := by
  refine ⟨fun _ _ => ?_, fun _ _ hempty q hq => ?_, fun files hempty => ?_,
    fun files q hq hmodel => ?_, fun files q => ?_⟩
  · rw [generate_refusing, generate_refusing]
  · -- the emptied directory is the same for all files, and so is what is made of it
    simp only [generate_refusing, find?_applyAll, runChanges, emptyDir_ok_iff.1 hempty, effectAll,
      List.foldl_cons, Change.effect, if_pos hq]
  · obtain ⟨e, he⟩ := Option.ne_none_iff_exists'.1 (mt emptyDir_ok_iff.2 hempty)
    simp only [generate_refusing, runChanges, he]
    rfl
  · -- no change touches a file outside the output
    rw [generate_refusing, find?_applyAll]
    refine effectAll_of_not_touches (fun c hc ht => ?_) _
    rcases inOutput_of_touches hc ht with hdir | hpath
    · rw [hdir] at hq
      cases hq
    · exact hmodel hpath.symm
  · rw [generate_refusing, generate_refusing]
    exact find?_applyAll_applyAll files _ q

/-- **A run replaces exactly its output.** This holds of every writer of files in memory that fails
for fixed paths, and so of the one that fails on a list of them. -/
theorem regenerates (d : Document) (ctx : Context) (layout : OutputLayout) :
    (∀ r : Refusals, Regenerates d ctx layout (refusing r)) ∧
      ∀ failing : List Path, Regenerates d ctx layout (FileMap.writer failing) := by
  refine ⟨regenerates_refusing d ctx layout, fun failing => ?_⟩
  rw [writer_eq_refusing]
  exact regenerates_refusing d ctx layout (.onPaths failing)

end TypedRequests.Request
