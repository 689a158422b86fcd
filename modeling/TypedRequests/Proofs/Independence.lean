import TypedRequests.Proofs.Commuting
import TypedRequests.Proofs.Footprints

/-!
# Tags do not depend on each other

The modules of a tag answer the same whatever was written before them, and they write in a directory
of their own. So the order of tags whose directories are different makes no difference.

* `assembleEach` : the modules of tags, each for itself.
* `applyAll_changes_perm` : the order of tags makes no difference for the files.
* `Independent`, `independent` : what this means for files in memory, whichever paths fail.
-/

set_option autoImplicit false

namespace TypedRequests.Request

open OpenApi FileMap

variable {ctx : Context} {layout : OutputLayout} {modelTypes : List String} {r : Refusals}
  {m m₁ m₂ : TagModule} {ms ms' : List TagModule}

/-! ## Modules in any order -/

theorem apart_files {tag tag' : String}
    (h : Naming.tagDirectory tag ≠ Naming.tagDirectory tag') :
    Apart (TagModule.Files layout tag) (TagModule.Files layout tag') := by
  rintro p q ⟨file, hp⟩ ⟨file', hq⟩ hpq
  rw [hp, hq] at hpq
  exact h (tagFile_eq_iff.1 hpq).1

/-- Two tags with different directories leave the same files in either order. -/
theorem applyAll_changes_comm (h : Naming.tagDirectory m₁.name ≠ Naming.tagDirectory m₂.name)
    (files : FileMap) :
    (files.applyAll (m₁.changes ctx layout modelTypes r)).applyAll
        (m₂.changes ctx layout modelTypes r) =
      (files.applyAll (m₂.changes ctx layout modelTypes r)).applyAll
        (m₁.changes ctx layout modelTypes r) :=
  applyAll_comm (apart_files h) m₁.writesIn_changes m₂.writesIn_changes files

/-- **Tags with pairwise different directories leave the same files in every order.** -/
theorem applyAll_changes_perm (hperm : ms.Perm ms')
    (hnodup : (ms.map fun m => Naming.tagDirectory m.name).Nodup) (files : FileMap) :
    files.applyAll (ms.flatMap fun m => m.changes ctx layout modelTypes r) =
      files.applyAll (ms'.flatMap fun m => m.changes ctx layout modelTypes r) := by
  induction hperm generalizing files with
  | nil => rfl
  | cons m _ ih =>
    rw [List.flatMap_cons, List.flatMap_cons, applyAll_append, applyAll_append]
    exact ih (List.nodup_cons.1 hnodup).2 _
  | swap m₁ m₂ ms =>
    have hne : Naming.tagDirectory m₂.name ≠ Naming.tagDirectory m₁.name := fun he =>
      (List.nodup_cons.1 hnodup).1 (List.mem_map.2 ⟨m₁, List.mem_cons_self .., he.symm⟩)
    simp only [List.flatMap_cons, applyAll_append]
    rw [applyAll_changes_comm hne]
  | trans h₁ _ ih₁ ih₂ => exact (ih₁ hnodup files).trans (ih₂ ((h₁.map _).nodup_iff.1 hnodup) files)

/-! ## Each for itself -/

/-- The modules of tags, each for itself: a failure does not keep the others from being written. -/
def assembleEach (ctx : Context) (layout : OutputLayout) (modelTypes : List String)
    (w : FileWriter (StateM FileMap)) (ms : List TagModule) :
    StateM FileMap (List (Outcome (Option TagOutput))) :=
  ms.mapM fun m => m.assemble ctx layout modelTypes w

theorem assembleEach_refusing (ms : List TagModule) (files : FileMap) :
    assembleEach ctx layout modelTypes (refusing r) ms files =
      (ms.map fun m => m.answer ctx layout modelTypes r,
        files.applyAll (ms.flatMap fun m => m.changes ctx layout modelTypes r)) := by
  unfold assembleEach
  induction ms generalizing files with
  | nil => rfl
  | cons m ms ih =>
    rw [List.mapM_cons, bind_eq (m.assemble_refusing files), bind_eq (ih _), List.flatMap_cons,
      applyAll_append]
    rfl

/-! ## Independent tags -/

/-- Tags do not depend on each other. -/
structure Independent (ctx : Context) (layout : OutputLayout) (modelTypes : List String)
    (w : FileWriter (StateM FileMap)) : Prop where
  /-- What the modules of a tag answer does not depend on the files, and so not on the tags before
  it either. -/
  answer : ∀ (m : TagModule) (files₁ files₂ : FileMap),
    (m.assemble ctx layout modelTypes w files₁).1 = (m.assemble ctx layout modelTypes w files₂).1
  /-- Two tags with different directories leave the same files in either order. -/
  swap : ∀ (m₁ m₂ : TagModule) (files : FileMap),
    Naming.tagDirectory m₁.name ≠ Naming.tagDirectory m₂.name →
      (m₂.assemble ctx layout modelTypes w (m₁.assemble ctx layout modelTypes w files).2).2 =
        (m₁.assemble ctx layout modelTypes w (m₂.assemble ctx layout modelTypes w files).2).2
  /-- However many tags there are, each of them answers as it does alone. -/
  alone : ∀ (ms : List TagModule) (files : FileMap),
    (assembleEach ctx layout modelTypes w ms files).1 =
      ms.map fun m => (m.assemble ctx layout modelTypes w files).1
  /-- Tags with pairwise different directories leave the same files in every order. -/
  orders : ∀ (ms ms' : List TagModule) (files : FileMap), ms.Perm ms' →
    (ms.map fun m => Naming.tagDirectory m.name).Nodup →
      (assembleEach ctx layout modelTypes w ms files).2 =
        (assembleEach ctx layout modelTypes w ms' files).2
  /-- If no tag of a run fails in one order, then none does in another order, and the run reports
  the same on each tag and leaves the same files. -/
  runs : ∀ (ms ms' : List TagModule) (files : FileMap), ms.Perm ms' →
    (ms.map fun m => Naming.tagDirectory m.name).Nodup → ∀ outputs : List TagOutput,
      (assembleAll ctx layout modelTypes w ms files).1.result = .ok outputs →
        ∃ outputs' : List TagOutput, outputs'.Perm outputs ∧
          (assembleAll ctx layout modelTypes w ms' files).1.result = .ok outputs' ∧
          (assembleAll ctx layout modelTypes w ms' files).2 =
            (assembleAll ctx layout modelTypes w ms files).2

theorem independent_refusing (ctx : Context) (layout : OutputLayout) (modelTypes : List String)
    (r : Refusals) : Independent ctx layout modelTypes (refusing r) where
  answer m files₁ files₂ := by rw [m.assemble_refusing, m.assemble_refusing]
  swap m₁ m₂ files h := by
    simp only [TagModule.assemble_refusing]
    exact applyAll_changes_comm h files
  alone ms files := by simp only [assembleEach_refusing, TagModule.assemble_refusing]
  orders ms ms' files hperm hnodup := by
    rw [assembleEach_refusing, assembleEach_refusing]
    exact applyAll_changes_perm hperm hnodup files
  runs ms ms' files hperm hnodup outputs h := by
    simp only [assembleAll_refusing] at h ⊢
    obtain ⟨hms, rfl⟩ := answerAll_eq_ok_iff.1 h
    have hms' : ∀ m ∈ ms', ∃ output, (m.answer ctx layout modelTypes r).result = .ok output :=
      fun m hm => hms m (hperm.mem_iff.2 hm)
    refine ⟨_, (hperm.filterMap _).symm, answerAll_eq_ok_iff.2 ⟨hms', rfl⟩, ?_⟩
    rw [changesAll_eq_flatMap hms, changesAll_eq_flatMap hms']
    exact (applyAll_changes_perm hperm hnodup files).symm

/-- **Tags do not depend on each other.** This holds of every writer of files in memory that fails
for fixed paths, and so of the one that fails on a list of them. -/
theorem independent (ctx : Context) (layout : OutputLayout) (modelTypes : List String) :
    (∀ r : Refusals, Independent ctx layout modelTypes (refusing r)) ∧
      ∀ failing : List Path, Independent ctx layout modelTypes (FileMap.writer failing) := by
  have hruns := independent_refusing ctx layout modelTypes
  exact ⟨hruns, of_refusing hruns⟩

end TypedRequests.Request
