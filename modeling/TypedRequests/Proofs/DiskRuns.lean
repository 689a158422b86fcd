import TypedRequests.Proofs.DiskFiles
import TypedRequests.Proofs.Outputs
import TypedRequests.Proofs.Resolution

/-!
# Runs on a disk

A run on a disk without links leaves the files that the same run leaves in memory, and reports the
same. Paths that go up, or lead into the directory under another name, are left out: in memory they
are other files, and on a disk they are not.

* `Path.Below` : a path inside a directory that is written with the parts of the directory.
* `Mirrors` : the files inside a directory are the same on a disk and in memory.
* `Mirrors.write`, `Mirrors.writes` : one text is written to both, and several.
* `Request.disk_refines_memory` : the files that a run leaves.
-/

set_option autoImplicit false

namespace TypedRequests

/-! ## Paths inside a directory -/

namespace Path

variable {p q dir : Path} {place : Place}

/-- The path has the parts of the directory, and names behind them. -/
def Below (dir p : Path) : Prop :=
  ∃ names : List String, p.parts = dir.parts ++ names.map PathPart.name

theorem resolve_of_names {names : List String}
    (h : p.parts = dir.parts ++ names.map PathPart.name) (place : Place) :
    p.resolve place = dir.resolve place ++ names := by
  have hnames : ∀ part ∈ names.map PathPart.name, ∃ s, part = .name s := fun part hpart => by
    obtain ⟨s, _, rfl⟩ := List.mem_map.1 hpart
    exact ⟨s, rfl⟩
  rw [resolve, h, List.foldl_append, PathPart.foldl_move_names hnames, List.map_map]
  exact congrArg _ (List.map_id names)

theorem Below.startsWith (h : Below dir p) : p.startsWith dir = true := by
  obtain ⟨names, hnames⟩ := h
  exact List.isPrefixOf_iff_prefix.2 ⟨_, hnames.symm⟩

/-- The path leads into the directory. -/
theorem Below.prefix_resolve (h : Below dir p) (place : Place) :
    dir.resolve place <+: p.resolve place := by
  obtain ⟨names, hnames⟩ := h
  exact ⟨names, (resolve_of_names hnames place).symm⟩

/-- **Paths inside a directory with the same place are the same file.** -/
theorem Below.parts_eq (h : Below dir p) (h' : Below dir q)
    (he : p.resolve place = q.resolve place) : p.parts = q.parts := by
  obtain ⟨names, hnames⟩ := h
  obtain ⟨names', hnames'⟩ := h'
  rw [resolve_of_names hnames, resolve_of_names hnames'] at he
  rw [hnames, hnames', List.append_cancel_left he]

theorem mem_parts_of_inner {part : PathPart} (h : part ∈ p.inner) : part ∈ p.parts := by
  unfold parts
  rw [← inner]
  split
  · exact List.mem_cons_of_mem _ h
  · split
    · exact List.mem_cons_of_mem _ h
    · exact h

/-- Names are known by their texts. -/
theorem map_name_text {ps : List PathPart} (h : ∀ part ∈ ps, ∃ s, part = .name s) :
    (ps.map PathPart.text).map PathPart.name = ps := by
  rw [List.map_map]
  refine (List.map_congr_left fun part hpart => ?_).trans (List.map_id ps)
  obtain ⟨s, rfl⟩ := h part hpart
  rfl

/-- **A relative path in a directory has the parts of the directory, and its own.** -/
theorem parts_join_of_relative (hdir : dir.text ≠ "") (h : p.isAbsolute = false) :
    (dir.join p).parts = dir.parts ++ p.inner := by
  obtain ⟨habs, front, back, hfront, hback, hsegs, hsegs'⟩ := segments_join hdir h
  have hhead : (dir.join p).segments.head? = dir.segments.head? := by
    obtain ⟨first, front, rfl⟩ := List.exists_cons_of_ne_nil hfront
    rw [hsegs, hsegs']
    rfl
  have hinner : (dir.join p).inner = dir.inner ++ p.inner := by
    rw [inner, inner, inner, hsegs, hsegs', List.filterMap_append, List.filterMap_append, hback,
      List.append_nil]
  unfold parts
  rw [habs, hhead, ← inner, ← inner, hinner]
  split
  · rfl
  · split <;> rfl

/-- The path is not written as one inside the directory, and does not lead there. -/
def Apart (dir : Path) (place : Place) (p : Path) : Prop :=
  p.startsWith dir = false ∧ ¬ dir.resolve place <+: p.resolve place

/-- **A path in a directory is inside it, or leads elsewhere**, unless it goes up or leads from the
root into a directory that is found from the current one. -/
theorem below_or_apart (hdir : dir.text ≠ "") (hup : PathPart.up ∉ dir.parts)
    (hp : PathPart.up ∉ (dir.join p).parts) (habs : p.isAbsolute = false ∨ dir.isAbsolute = true)
    (place : Place) : Below dir (dir.join p) ∨ Apart dir place (dir.join p) := by
  cases hpabs : p.isAbsolute with
  | false =>
    rw [parts_join_of_relative hdir hpabs] at hp
    have hup : PathPart.up ∉ p.inner := fun h => hp (List.mem_append_right _ h)
    refine .inl ⟨p.inner.map PathPart.text, ?_⟩
    rw [parts_join_of_relative hdir hpabs, map_name_text fun _ => exists_name_of_mem_inner hup]
  | true =>
    rw [join_of_absolute dir hpabs] at hp ⊢
    rw [hpabs] at habs
    have hdabs := habs.resolve_left Bool.noConfusion
    have hpparts : p.parts = .root :: p.inner := by
      rw [parts, hpabs]
      rfl
    have hdparts : dir.parts = .root :: dir.inner := by
      rw [parts, hdabs]
      rfl
    have hpnames : ∀ part ∈ p.inner, ∃ s, part = .name s :=
      fun _ => exists_name_of_mem_inner (mt mem_parts_of_inner hp)
    have hdnames : ∀ part ∈ dir.inner, ∃ s, part = .name s :=
      fun _ => exists_name_of_mem_inner (mt mem_parts_of_inner hup)
    by_cases hinner : dir.inner <+: p.inner
    · obtain ⟨rest, hrest⟩ := hinner
      refine .inl ⟨rest.map PathPart.text, ?_⟩
      rw [map_name_text fun part hpart => hpnames part (hrest ▸ List.mem_append_right _ hpart),
        hpparts, hdparts, ← hrest]
      rfl
    · refine .inr ⟨?_, fun hplace => hinner ?_⟩
      · refine Bool.eq_false_iff.2 fun hstarts => hinner ?_
        rw [startsWith, hpparts, hdparts] at hstarts
        exact (List.cons_prefix_cons.1 (List.isPrefixOf_iff_prefix.1 hstarts)).2
      · rw [resolve, resolve, hpparts, hdparts, List.foldl_cons, List.foldl_cons,
          PathPart.foldl_move_names hdnames, PathPart.foldl_move_names hpnames] at hplace
        rw [← map_name_text hdnames, ← map_name_text hpnames]
        exact List.IsPrefix.map _ hplace

end Path

/-! ## Files on a disk and in memory -/

/-- The files inside a directory are the same on a disk and in memory, and those outside are as on
the disk before, except for one. -/
structure Mirrors (dir : Path) (own : Place) (before k : Disk) (files : FileMap) : Prop where
  linkless : k.Linkless
  current : k.current = before.current
  directory : k.look (dir.resolve before.current) = some .directory
  below : ∀ p text, p.startsWith dir = true → files.find? p = some text → dir.Below p
  onDisk : ∀ p text, p.startsWith dir = true → files.find? p = some text →
    k.text? (p.resolve before.current) = some text
  inMemory : ∀ x text, dir.resolve before.current <+: x → k.text? x = some text →
    ∃ p, p.startsWith dir = true ∧ p.resolve before.current = x ∧ files.find? p = some text
  outside : ∀ x, ¬ dir.resolve before.current <+: x → x ≠ own → k.text? x = before.text? x

namespace Mirrors

variable {dir p : Path} {own : Place} {before k k' : Disk} {files : FileMap} {text : String}

/-- An emptied directory is empty on a disk and in memory. -/
theorem of_cleared (h : Disk.Cleared before (dir.resolve before.current) k) (own : Place)
    (files : FileMap) : Mirrors dir own before k (files.eraseUnder dir) := by
  have hnone : ∀ p text, p.startsWith dir = true → (files.eraseUnder dir).find? p ≠ some text := by
    intro p text hp
    rw [FileMap.find?_eraseUnder, if_pos hp]
    exact nofun
  refine ⟨h.linkless, h.current, h.directory, fun p text hp he => absurd he (hnone p text hp),
    fun p text hp he => absurd he (hnone p text hp), fun x text hx he => ?_, fun x hx _ => ?_⟩
  · rw [h.text?_eq, if_pos hx] at he
    cases he
  · rw [h.text?_eq, if_neg hx]

/-- A text is written to a file inside the directory. -/
theorem write_below (h : Mirrors dir own before k files) (hp : dir.Below p)
    (hw : Disk.Written k p text k') : Mirrors dir own before k' (files.write p text) := by
  have htext : ∀ x, k'.text? x = if x = p.resolve before.current then some text else k.text? x :=
    fun x => by rw [hw.text?_eq, h.current]
  refine ⟨hw.linkless, hw.current.trans h.current, hw.directories _ h.directory,
    fun q old hq he => ?_, fun q old hq he => ?_, fun x old hx he => ?_, fun x hx hown => ?_⟩
  · rw [FileMap.find?_write] at he
    split at he
    · rename_i hparts
      obtain ⟨names, hnames⟩ := hp
      exact ⟨names, hparts ▸ hnames⟩
    · exact h.below q old hq he
  · rw [FileMap.find?_write] at he
    rw [htext]
    split at he
    · rename_i hparts
      rw [if_pos (by rw [Path.resolve, Path.resolve, hparts])]
      exact he
    · rename_i hparts
      rw [if_neg fun hplace => hparts (hp.parts_eq (h.below q old hq he) hplace.symm)]
      exact h.onDisk q old hq he
  · rw [htext] at he
    split at he
    · rename_i hplace
      exact ⟨p, hp.startsWith, hplace.symm, by rw [FileMap.find?_write, if_pos rfl, he]⟩
    · rename_i hplace
      obtain ⟨q, hq, rfl, hold⟩ := h.inMemory x old hx he
      refine ⟨q, hq, rfl, ?_⟩
      rw [FileMap.find?_write, if_neg]
      · exact hold
      · exact fun hparts => hplace (by rw [Path.resolve, Path.resolve, hparts])
  · rw [htext, if_neg]
    · exact h.outside x hx hown
    · rintro rfl
      exact hx (hp.prefix_resolve _)

/-- A text is written to the file outside the directory. -/
theorem write_apart (h : Mirrors dir own before k files) (hp : dir.Apart before.current p)
    (hown : p.resolve before.current = own) (hw : Disk.Written k p text k') :
    Mirrors dir own before k' (files.write p text) := by
  have htext : ∀ x, k'.text? x = if x = own then some text else k.text? x :=
    fun x => by rw [hw.text?_eq, h.current, hown]
  have hfind : ∀ q, q.startsWith dir = true → (files.write p text).find? q = files.find? q := by
    intro q hq
    rw [FileMap.find?_write, if_neg]
    intro hparts
    have hstarts : p.startsWith dir = q.startsWith dir := by
      rw [Path.startsWith, Path.startsWith, hparts]
    rw [hp.1, hq] at hstarts
    cases hstarts
  have hinside : ∀ x, dir.resolve before.current <+: x → k'.text? x = k.text? x := by
    intro x hx
    rw [htext, if_neg]
    rintro rfl
    exact hp.2 (hown ▸ hx)
  refine ⟨hw.linkless, hw.current.trans h.current, hw.directories _ h.directory,
    fun q old hq he => h.below q old hq (hfind q hq ▸ he), fun q old hq he => ?_,
    fun x old hx he => ?_, fun x hx hne => ?_⟩
  · rw [hfind q hq] at he
    have hold := h.onDisk q old hq he
    rwa [hinside _ ((h.below q old hq he).prefix_resolve _)]
  · rw [hinside x hx] at he
    obtain ⟨q, hq, hplace, hold⟩ := h.inMemory x old hx he
    exact ⟨q, hq, hplace, (hfind q hq).trans hold⟩
  · rw [htext, if_neg hne]
    exact h.outside x hx hne

/-- **Texts that are written one after the other**, inside the directory or to the file outside. -/
theorem writes {ws : List (Path × String)} (h : Mirrors dir own before k files)
    (hws : Disk.system.writer.Writes k ws k')
    (hplaces : ∀ w ∈ ws, dir.Below w.1 ∨
      dir.Apart before.current w.1 ∧ w.1.resolve before.current = own) :
    Mirrors dir own before k' (files.writeAll ws) := by
  induction hws generalizing files with
  | nil => exact h
  | cons hwrite _ ih =>
    obtain ⟨hfirst, hrest⟩ := List.forall_mem_cons.1 hplaces
    have hwritten := Disk.written_of_write h.linkless hwrite
    rcases hfirst with hbelow | ⟨hapart, hown⟩
    · exact ih (h.write_below hbelow hwritten) hrest
    · exact ih (h.write_apart hapart hown hwritten) hrest

end Mirrors

namespace Request

open OpenApi

variable {d : Document} {ctx : Context}

/-- What a run writes lies inside its directory, but for the model module. -/
theorem places_of_runWrites {dir : Path} {model : Option Path} {modelTypes : List String}
    {modules : List TagModule} {plans : List TagPlan} {place : Place}
    (hmodel : dir.Below (OutputLayout.inDir dir model).model ∨
      dir.Apart place (OutputLayout.inDir dir model).model)
    (hplans : PlansOf ctx (.inDir dir model) modelTypes modules plans) {w : Path × String}
    (hw : w ∈ runWrites d (.inDir dir model) plans) :
    dir.Below w.1 ∨ dir.Apart place w.1 ∧
      w.1.resolve place = (OutputLayout.inDir dir model).model.resolve place := by
  rcases List.mem_append.1 hw with hw | hw
  · obtain ⟨m, _, rfl⟩ := Option.map_eq_some_iff.1 (Option.mem_toList.1 hw)
    exact hmodel.imp_right fun hapart => ⟨hapart, rfl⟩
  · obtain ⟨plan, hplan, hw⟩ := List.mem_flatMap.1 hw
    obtain ⟨file, hfile⟩ := hplans.parts_of_mem_writes hplan hw
    exact .inl ⟨[Naming.tagDirectory plan.tag, file], hfile⟩

/-- The files inside the output directory are the same on a disk and in memory: those in memory are
on the disk, each at a place of its own, and there are no others. All other files on the disk are as
before, except for the model module. -/
structure SameFiles (layout : OutputLayout) (k k' : Disk) (files : FileMap) : Prop where
  onDisk : ∀ p text, p.startsWith layout.dir = true → files.find? p = some text →
    layout.dir.resolve k.current <+: p.resolve k.current ∧
      k'.text? (p.resolve k.current) = some text
  distinct : ∀ p q, p.startsWith layout.dir = true → q.startsWith layout.dir = true →
    files.find? p ≠ none → files.find? q ≠ none →
      p.resolve k.current = q.resolve k.current → p.same q = true
  inMemory : ∀ x text, layout.dir.resolve k.current <+: x → k'.text? x = some text →
    ∃ p, p.startsWith layout.dir = true ∧ p.resolve k.current = x ∧ files.find? p = some text
  outside : ∀ x, ¬ layout.dir.resolve k.current <+: x → x ≠ layout.model.resolve k.current →
    k'.text? x = k.text? x

theorem sameFiles_of_mirrors {layout : OutputLayout} {k k' : Disk} {files : FileMap}
    (h : Mirrors layout.dir (layout.model.resolve k.current) k k' files) :
    SameFiles layout k k' files := by
  refine ⟨fun p text hp he => ?_, fun p q hp hq he he' hplace => ?_, h.inMemory, h.outside⟩
  · exact ⟨(h.below p text hp he).prefix_resolve _, h.onDisk p text hp he⟩
  · obtain ⟨text, he⟩ := Option.ne_none_iff_exists'.1 he
    obtain ⟨text', he'⟩ := Option.ne_none_iff_exists'.1 he'
    exact Path.same_iff.2 ((h.below p text hp he).parts_eq (h.below q text' hq he') hplace)

/-- **A run on a disk leaves the files that it leaves in memory.** The disk holds no links, and each
entry lies in a directory. The output directory has a path, neither it nor the model module goes up,
and the model module has a relative path or the directory an absolute one. If the run ends well and
tells of no missing file, the same run in memory reports the same, whatever files are there, and
both leave the same files. -/
theorem disk_refines_memory {dir : Path} {model : Option Path} {k k' : Disk} {o : Outcome Report}
    {report : Report} (hdir : dir.text ≠ "") (hup : PathPart.up ∉ dir.parts)
    (hmodel : PathPart.up ∉ (OutputLayout.inDir dir model).model.parts)
    (habs : (model.getD defaultModelFile).isAbsolute = false ∨ dir.isAbsolute = true)
    (hlinks : k.Linkless) (hsound : k.Sound)
    (h : generate d ctx (.inDir dir model) Disk.system.writer k = (o, k'))
    (ho : o.result = .ok report) (hns : Quiet o.notices) (files : FileMap) :
    ∃ ns files', generate d ctx (.inDir dir model) (FileMap.writer []) files =
        (⟨ns, .ok report⟩, files') ∧ SameFiles (.inDir dir model) k k' files' := by
  obtain ⟨modules, plans, k₀, hmodules, hplans, htexts, rfl, hempty, hwrites⟩ :=
    generate_writes h ho hns
  have hcleared := Disk.cleared_of_emptyDir hlinks hsound (mt Path.mem_parts_of_inner hup) hempty
  have hplaces := Path.below_or_apart hdir hup hmodel habs k.current
  have hmirrors := (Mirrors.of_cleared hcleared _ files).writes hwrites
    fun w hw => places_of_runWrites hplaces hplans hw
  obtain ⟨ns, hmemory⟩ := generate_of_writes hmodules hplans htexts rfl
    (FileMap.writes_writer (files.eraseUnder dir) (runWrites d (.inDir dir model) plans))
  exact ⟨ns, _, hmemory, sameFiles_of_mirrors hmirrors⟩

/-- A disk with an old file in the output directory, and one beside it. -/
def petsDisk : Disk where
  entries := [(["work"], .directory), (["work", "api"], .directory),
    (["work", "api", "old.ts"], .file "old"), (["work", "notes"], .file "mine")]
  current := ["work"]

/-- A run on that disk. -/
def runPets : Outcome Report × Disk :=
  generate (namesDocument textSchema) namesContext (.inDir ⟨"api"⟩ none) Disk.system.writer petsDisk

/-- The run replaces the old file, and does so in memory. -/
theorem disk_refines_memory_pets :
    runPets.1.result = .ok namesReport ∧ ∃ ns files',
      generate (namesDocument textSchema) namesContext (.inDir ⟨"api"⟩ none) (FileMap.writer [])
        .empty = (⟨ns, .ok namesReport⟩, files') ∧
      SameFiles (.inDir ⟨"api"⟩ none) petsDisk runPets.2 files' := by
  have hrun : generate (namesDocument textSchema) namesContext (.inDir ⟨"api"⟩ none)
      Disk.system.writer petsDisk = (runPets.1, runPets.2) := (Prod.eta runPets).symm
  have hresult : runPets.1.result = .ok namesReport := eq_ok_of_toOption (by decide +kernel)
  have hquiet : Quiet runPets.1.notices := by
    unfold Quiet
    decide +kernel
  exact ⟨hresult, disk_refines_memory (by decide) (by decide +kernel) (by decide +kernel)
    (.inl (by decide +kernel)) (Disk.linkless_of_entries (by decide))
    (Disk.sound_of_entries (by decide +kernel)) hrun hresult hquiet .empty⟩

end Request

end TypedRequests
