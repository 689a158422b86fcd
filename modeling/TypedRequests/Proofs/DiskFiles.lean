import TypedRequests.Proofs.Emptying

/-!
# Files on a disk without links

What becomes of the files on a disk when a directory is emptied and when a file is written, if it
holds no links and every entry lies in a directory.

* `Disk.Sound` : every entry lies in a directory.
* `Disk.text?` : the text of the file at a place.
* `Linkless.slot_eq` : without links a path leads to the place that it names.
* `Holds`, `place_of_directory` : a directory is found by every path that names it and is not too
  long.
* `Cleared`, `cleared_of_emptyDir` : a directory is emptied, and the other files stay.
* `Written`, `written_of_write` : a file is written, and the other files stay.
-/

set_option autoImplicit false

namespace TypedRequests

/-! ## Places without steps up -/

namespace PathPart

/-- Names lead inside. -/
theorem foldl_move_names {ps : List PathPart} (h : ∀ part ∈ ps, ∃ s, part = name s)
    (place : Place) : ps.foldl move place = place ++ ps.map text := by
  induction ps generalizing place with
  | nil => simp
  | cons p ps ih =>
    obtain ⟨⟨s, rfl⟩, hps⟩ := List.forall_mem_cons.1 h
    rw [List.foldl_cons, ih hps, move, List.append_assoc]
    rfl

end PathPart

namespace Path

variable {p : Path}

/-- The inner parts of a path that does not go up are names. -/
theorem exists_name_of_mem_inner (hup : PathPart.up ∉ p.inner) {part : PathPart}
    (h : part ∈ p.inner) : ∃ s, part = .name s := by
  cases inner_of_mem h with
  | up => exact absurd h hup
  | @name s _ => exact ⟨s, rfl⟩

/-- The place that a path starts from. -/
def base (p : Path) (place : Place) : Place :=
  if p.isAbsolute then [] else place

theorem resolve_eq_append (hup : PathPart.up ∉ p.inner) (place : Place) :
    p.resolve place = p.base place ++ p.inner.map PathPart.text := by
  rw [resolve_eq, steps_eq, base]
  split
  · exact PathPart.foldl_move_names (fun _ => exists_name_of_mem_inner hup) []
  · exact PathPart.foldl_move_names (fun _ => exists_name_of_mem_inner hup) place

end Path

namespace Disk

variable {d d' d'' : Disk} {p : Path} {x y dir : Place}

/-! ## Sound disks -/

/-- Every entry lies in a directory. -/
def Sound (d : Disk) : Prop :=
  ∀ x s, d.look (x ++ [s]) ≠ none → d.look x = some .directory

theorem mem_of_look {e : DiskEntry} (hx : x ≠ []) (h : d.look x = some e) : (x, e) ∈ d.entries := by
  rw [look, if_neg hx] at h
  obtain ⟨front, back, hentries, _⟩ := List.lookup_eq_some_iff.1 h
  rw [hentries]
  exact List.mem_append_right _ (List.mem_cons_self ..)

theorem linkless_of_entries (h : ∀ e ∈ d.entries, e.2.kind? ≠ none) : d.Linkless := by
  intro x target hx
  by_cases hroot : x = []
  · subst hroot
    cases hx
  · exact h _ (mem_of_look hroot hx) rfl

theorem sound_of_entries (h : ∀ e ∈ d.entries, d.look e.1.dropLast = some .directory) :
    d.Sound := by
  intro x s hx
  obtain ⟨e, he⟩ := Option.ne_none_iff_exists'.1 hx
  have hlook := h _ (mem_of_look (List.append_ne_nil_of_right_ne_nil x (List.cons_ne_nil s [])) he)
  rwa [List.dropLast_concat] at hlook

/-- All that lies above an entry is a directory. -/
theorem Sound.look_above (h : d.Sound) {rest : Place} (hrest : rest ≠ [])
    (hx : d.look (x ++ rest) ≠ none) : d.look x = some .directory := by
  induction rest generalizing x with
  | nil => exact absurd rfl hrest
  | cons s rest ih =>
    by_cases hnil : rest = []
    · subst hnil
      exact h x s hx
    · have hs : d.look (x ++ [s]) = some .directory := ih hnil (by simpa using hx)
      exact h x s (by simp [hs])

/-- The text of the file at a place. -/
def text? (d : Disk) (x : Place) : Option String :=
  match d.look x with
  | some (.file text) => some text
  | _ => none

/-- New directories change no file. -/
theorem Grown.text?_eq (h : Grown d d') (x : Place) : d'.text? x = d.text? x := by
  unfold text?
  rcases h.look x with hx | ⟨hx, hx'⟩
  · rw [hx]
  · rw [hx, hx']

theorem Grown.linkless (h : Grown d d') (hlinks : d.Linkless) : d'.Linkless := by
  intro x target hx
  rcases h.look x with hsame | ⟨_, hnew⟩
  · exact hlinks x target (hsame ▸ hx)
  · rw [hnew] at hx
    cases hx

theorem Linkless.clear (h : d.Linkless) (dir : Place) : (d.clear dir).Linkless := by
  intro x target hx
  rw [look_clear] at hx
  split at hx
  · cases hx
  · exact h x target hx

theorem text?_clear (d : Disk) (dir x : Place) :
    (d.clear dir).text? x = if isInside x dir then none else d.text? x := by
  unfold text?
  rw [look_clear]
  cases isInside x dir <;> rfl

theorem Linkless.put (h : d.Linkless) (hx : x ≠ []) (text : String) :
    (d.put x (.file text)).Linkless := by
  intro y target hy
  rw [look_put d hx] at hy
  split at hy
  · cases hy
  · exact h y target hy

theorem text?_put (d : Disk) (hx : x ≠ []) (text : String) (y : Place) :
    (d.put x (.file text)).text? y = if y = x then some text else d.text? y := by
  unfold text?
  rw [look_put d hx]
  by_cases hy : y = x
  · rw [if_pos hy, if_pos hy]
  · rw [if_neg hy, if_neg hy]

/-! ## Where paths lead -/

theorem follow_eq_ok {followLast : Bool} {segments : List (List Char)} :
    d.follow followLast p segments = .ok x ↔
      (p.text ≠ "" ∧ p.text.toList.contains '\x00' = false ∧
        p.text.utf8ByteSize ≤ longestPath) ∧
        d.walkLinks followLast mostLinks (p.base d.current) segments = .ok x := by
  unfold follow Path.base
  by_cases htext : p.text = ""
  · rw [if_pos htext]
    exact ⟨nofun, fun h => absurd htext h.1.1⟩
  · rw [if_neg htext]
    cases hzero : p.text.toList.contains '\x00' with
    | true => exact ⟨nofun, fun h => nomatch h.1.2.1⟩
    | false =>
      rw [if_neg Bool.false_ne_true]
      by_cases hlength : p.text.utf8ByteSize > longestPath
      · rw [if_pos hlength]
        exact ⟨nofun, fun h => absurd h.1.2.2 (Nat.not_le_of_lt hlength)⟩
      · rw [if_neg hlength]
        exact ⟨fun h => ⟨⟨htext, rfl, Nat.le_of_not_lt hlength⟩, h⟩, And.right⟩

theorem Linkless.walkLinks_eq_ok (h : d.Linkless) {followLast : Bool} {links : Nat}
    {segments : List (List Char)} : d.walkLinks followLast links x segments = .ok y ↔
      d.walk followLast x segments = .ok (.here y) := by
  unfold walkLinks
  cases hwalk : d.walk followLast x segments with
  | error e => simp
  | ok stop =>
    obtain rfl := h.walk_eq hwalk
    simp

/-- The segments of a path without the empty ones at its end. -/
theorem exists_stripped (p : Path) :
    ∃ back, p.segments = (p.segments.reverse.dropWhile List.isEmpty).reverse ++ back ∧
      ∀ segment ∈ back, Path.innerPart segment = none := by
  refine ⟨(p.segments.reverse.takeWhile List.isEmpty).reverse, ?_, fun segment h => ?_⟩
  · rw [← List.reverse_append, List.takeWhile_append_dropWhile, List.reverse_reverse]
  · have hempty := List.all_eq_true.1 List.all_takeWhile segment (List.mem_reverse.1 h)
    rw [List.isEmpty_iff.1 hempty]
    rfl

theorem inner_stripped (p : Path) :
    ((p.segments.reverse.dropWhile List.isEmpty).reverse).filterMap Path.innerPart = p.inner := by
  obtain ⟨back, hback, hempty⟩ := exists_stripped p
  have hinner := congrArg (List.filterMap Path.innerPart) hback
  rw [List.filterMap_append, List.filterMap_eq_nil_iff.2 hempty, List.append_nil] at hinner
  exact hinner.symm

/-- **Without links also a path with slashes at its end leads to the place that it names.** -/
theorem Linkless.slot_eq {followLast : Bool} (h : d.Linkless)
    (hslot : d.slot followLast p = .ok x) : x = p.resolve d.current := by
  obtain ⟨-, hwalk⟩ := follow_eq_ok.1 hslot
  have hx := h.walk_eq (h.walkLinks_eq_ok.1 hwalk)
  rw [inner_stripped] at hx
  rw [Stop.here.inj hx, Path.resolve_eq, Path.steps_eq, Path.base]
  split <;> rfl

/-! ### Names that a disk can hold -/

/-- No name in the segments is too long. -/
def Short (segments : List (List Char)) : Prop :=
  ∀ segment ∈ segments, ∀ part, Path.innerPart segment = some part → part ≠ .up →
    part.text.utf8ByteSize ≤ longestName

/-- A disk can hold a file with the path. -/
structure Holds (p : Path) : Prop where
  nonempty : p.text ≠ ""
  noZero : p.text.toList.contains '\x00' = false
  short : p.text.utf8ByteSize ≤ longestPath
  names : Short p.segments

/-- A step along a name. -/
theorem step_of_part {segment : List Char} {part : PathPart}
    (h : d.look x = some .directory) (hpart : Path.innerPart segment = some part)
    (hup : part ≠ .up) :
    d.step x segment = if part.text.utf8ByteSize > longestName then .error .nameTooLong
      else .ok (x ++ [part.text]) := by
  unfold step
  rw [h, hpart]
  cases part with
  | up => exact absurd rfl hup
  | _ => rfl

theorem Linkless.short {followLast : Bool} {segments : List (List Char)} (h : d.Linkless)
    {stop : Stop} (hwalk : d.walk followLast x segments = .ok stop) : Short segments := by
  fun_induction walk d followLast x segments with
  | case1 => exact fun segment hsegment => absurd hsegment List.not_mem_nil
  | case2 => cases hwalk
  | case3 x segment rest next hstep target hlook => exact absurd hlook (h next target)
  | case4 x segment rest next hstep target hlook => exact absurd hlook (h next target)
  | case5 x segment rest next hstep hlook ih =>
    refine List.forall_mem_cons.2 ⟨fun part hpart hup => ?_, ih hwalk⟩
    rw [step_of_part (step_eq_ok hstep) hpart hup] at hstep
    split at hstep
    · cases hstep
    · exact Nat.le_of_not_lt ‹_›

theorem Linkless.holds_of_place (h : d.Linkless) (hplace : d.place p = .ok x) : Holds p := by
  obtain ⟨⟨htext, hzero, hlength⟩, hwalk⟩ := follow_eq_ok.1 hplace
  exact ⟨htext, hzero, hlength, h.short (h.walkLinks_eq_ok.1 hwalk)⟩

theorem Linkless.holds_of_slot {followLast : Bool} (h : d.Linkless)
    (hslot : d.slot followLast p = .ok x) : Holds p := by
  obtain ⟨⟨htext, hzero, hlength⟩, hwalk⟩ := follow_eq_ok.1 hslot
  refine ⟨htext, hzero, hlength, ?_⟩
  obtain ⟨back, hback, hempty⟩ := exists_stripped p
  intro segment hsegment part hpart
  rw [hback] at hsegment
  rcases List.mem_append.1 hsegment with hfront | hend
  · exact h.short (h.walkLinks_eq_ok.1 hwalk) segment hfront part hpart
  · rw [hempty segment hend] at hpart
    cases hpart

/-- **Steps lead on through directories.** -/
theorem walk_of_directories {followLast : Bool} {segments : List (List Char)}
    (hshort : Short segments) (hup : PathPart.up ∉ segments.filterMap Path.innerPart)
    (hdirs : ∀ y, x <+: y → y <+: x ++ (segments.filterMap Path.innerPart).map PathPart.text →
      d.look y = some .directory) :
    d.walk followLast x segments =
      .ok (.here (x ++ (segments.filterMap Path.innerPart).map PathPart.text)) := by
  induction segments generalizing x with
  | nil => simp [walk]
  | cons segment rest ih =>
    obtain ⟨hlength, hrest⟩ := List.forall_mem_cons.1 hshort
    have hx : d.look x = some .directory := hdirs x (List.prefix_refl x) (List.prefix_append ..)
    rw [walk]
    cases hpart : Path.innerPart segment with
    | none =>
      rw [List.filterMap_cons_none hpart] at hup hdirs ⊢
      have hstep : d.step x segment = .ok x := by
        unfold step
        simp only [hx, hpart]
      simp only [hstep, hx]
      exact ih hrest hup hdirs
    | some part =>
      rw [List.filterMap_cons_some hpart] at hup hdirs ⊢
      obtain ⟨hne, hup⟩ := not_or.1 (mt List.mem_cons.2 hup)
      rw [List.map_cons, List.append_cons] at hdirs ⊢
      have hnext := hdirs (x ++ [part.text]) (List.prefix_append ..) (List.prefix_append ..)
      have hstep : d.step x segment = .ok (x ++ [part.text]) := by
        rw [step_of_part hx hpart (Ne.symm hne), if_neg]
        exact Nat.not_lt_of_le (hlength part hpart (Ne.symm hne))
      simp only [hstep, hnext]
      exact ih hrest hup fun y hy => hdirs y ((List.prefix_append ..).trans hy)

/-- **A directory is found by every path that names it and that a disk can hold.** -/
theorem place_of_directory (hlinks : d.Linkless) (hsound : d.Sound) (hp : Holds p)
    (hup : PathPart.up ∉ p.inner) (hdirectory : d.look (p.resolve d.current) = some .directory) :
    d.place p = .ok (p.resolve d.current) := by
  rw [Path.resolve_eq_append hup] at hdirectory ⊢
  refine follow_eq_ok.2 ⟨⟨hp.nonempty, hp.noZero, hp.short⟩, hlinks.walkLinks_eq_ok.2 ?_⟩
  refine walk_of_directories hp.names hup fun y _ hy => ?_
  obtain ⟨rest, hrest⟩ := hy
  by_cases hnil : rest = []
  · rw [hnil, List.append_nil] at hrest
    rw [hrest]
    exact hdirectory
  · exact hsound.look_above hnil (by rw [hrest]; exact hdirectory ▸ Option.some_ne_none _)

/-! ## Emptied directories -/

theorem unlessPresent_eq_ok {o : Except FileError Unit}
    (h : system.unlessPresent p o d = (.ok (), d')) :
    d' = d ∧ (o = .ok () ∨ d.kind? p = some .directory) := by
  cases o with
  | ok u =>
    cases h
    exact ⟨rfl, .inl rfl⟩
  | error e =>
    change (if d.kind? p = some .directory then Except.ok () else .error e, d) = _ at h
    obtain ⟨ho, hd⟩ := Prod.mk.inj h
    split at ho
    · exact ⟨hd.symm, .inr ‹_›⟩
    · cases ho

/-- The path leads to a directory, at least when slashes at its end are left out. -/
def Reaches (d : Disk) (p : Path) : Prop :=
  ∃ x, (d.place p = .ok x ∨ d.slot false p = .ok x) ∧ d.look x = some .directory

theorem reaches_of_kind? (h : d.kind? p = some .directory) : d.Reaches p := by
  unfold kind? at h
  cases hplace : d.place p with
  | error e =>
    rw [hplace] at h
    cases h
  | ok x =>
    rw [hplace] at h
    refine ⟨x, .inl hplace, ?_⟩
    obtain ⟨e, he, hkind⟩ := Option.bind_eq_some_iff.1 h
    cases e with
    | directory => exact he
    | file text => cases hkind
    | link target => cases hkind

theorem reaches_of_makeDir (h : system.makeDir p d = (.ok (), d')) : d'.Reaches p := by
  rw [system_makeDir] at h
  cases hmake : d.makeDir p with
  | error e =>
    rw [hmake] at h
    cases h
  | ok made =>
    rw [hmake] at h
    obtain ⟨place, hslot, hnone, rfl⟩ := makeDir_eq_ok hmake
    cases h
    refine ⟨place, .inr ((grown_put hnone).slot_eq hslot), ?_⟩
    rw [look_put d, if_pos rfl]
    rintro rfl
    cases hnone

theorem reaches_of_attempt {o : Except FileError Unit} (hmake : system.makeDir p d = (o, d'))
    {k : Disk} (h : system.unlessPresent p o d' = (.ok (), k)) : k.Reaches p := by
  obtain ⟨rfl, rfl | hkind⟩ := unlessPresent_eq_ok h
  · exact reaches_of_makeDir hmake
  · exact reaches_of_kind? hkind

/-- **Directories that are made are there.** -/
theorem reaches_of_makeChain {ps : List Path} (htext : p.text ≠ "")
    (h : system.makeChain (p :: ps) d = (.ok (), d')) : d'.Reaches p := by
  rw [FileSystem.makeChain, if_neg htext] at h
  cases hmake : system.makeDir p d with
  | mk o made =>
    rw [bind_eq hmake] at h
    cases o with
    | ok u => exact reaches_of_attempt hmake h
    | error e =>
      cases e with
      | notFound =>
        simp only at h
        cases hchain : system.makeChain ps made with
        | mk o above =>
          rw [bind_eq hchain] at h
          cases o with
          | error e => cases h
          | ok u =>
            simp only at h
            cases hagain : system.makeDir p above with
            | mk o again =>
              rw [bind_eq hagain] at h
              exact reaches_of_attempt hagain h
      | _ => exact reaches_of_attempt hmake h

/-- The disk with nothing but directories inside one, and without links. -/
structure Cleared (d : Disk) (dir : Place) (d' : Disk) : Prop where
  linkless : d'.Linkless
  current : d'.current = d.current
  directory : d'.look dir = some .directory
  text?_eq : ∀ x, d'.text? x = if dir <+: x then none else d.text? x

theorem Linkless.cleared (hlinks : d.Linkless) (hdirectory : d.look dir = some .directory) :
    Cleared d dir (d.clear dir) := by
  have hself : isInside dir dir = false := Bool.eq_false_iff.2 fun h => (isInside_iff.1 h).2 rfl
  refine ⟨hlinks.clear dir, rfl, by rw [look_clear, hself]; exact hdirectory, fun x => ?_⟩
  rw [text?_clear]
  by_cases hx : x = dir
  · -- the directory itself is no file
    subst hx
    rw [hself, if_pos (List.prefix_refl x), text?, hdirectory]
    rfl
  · simp [isInside, hx]

/-- **What emptying does to the files of a disk.** -/
theorem cleared_of_emptyDir (hlinks : d.Linkless) (hsound : d.Sound)
    (hup : PathPart.up ∉ p.inner) (h : system.writer.emptyDir p d = (.ok (), d')) :
    Cleared d (p.resolve d.current) d' := by
  have hemptied : d.emptied p = (.ok (), d') := h
  have hspec := emptied_spec d p
  rw [hemptied] at hspec
  cases hspec with
  | cleared hparent hplace hdirectory hne =>
    obtain rfl := hlinks.place_eq hplace
    exact hlinks.cleared hdirectory
  | made hparent hnone hmade =>
    have hgrown := hmade.grown
    have hlinks' := hgrown.linkless hlinks
    rw [emptied_eq, if_neg (by simpa using hparent), hnone] at hemptied
    have htext : p.text ≠ "" := by
      intro htext
      obtain ⟨text⟩ := p
      subst htext
      exact hparent (by decide +kernel)
    obtain ⟨x, hreached, hx⟩ := reaches_of_makeChain htext hemptied
    have hp : Holds p := hreached.elim hlinks'.holds_of_place hlinks'.holds_of_slot
    obtain rfl : x = p.resolve d.current := by
      rw [← hgrown.current]
      exact hreached.elim hlinks'.place_eq hlinks'.slot_eq
    -- nothing was there, since the path would have led to it
    have hmissing : d.look (p.resolve d.current) = none := by
      rcases hgrown.look (p.resolve d.current) with hsame | ⟨hold, _⟩
      · rw [hsame] at hx
        rw [kind?_of_directory (place_of_directory hlinks hsound hp hup hx) hx] at hnone
        cases hnone
      · exact hold
    refine ⟨hlinks', hgrown.current, hx, fun x => ?_⟩
    rw [hgrown.text?_eq]
    split
    · rename_i hinside
      obtain ⟨rest, rfl⟩ := hinside
      have hempty : d.look (p.resolve d.current ++ rest) = none := by
        by_cases hrest : rest = []
        · rw [hrest, List.append_nil]
          exact hmissing
        · refine Decidable.byContradiction fun hsome => ?_
          rw [hsound.look_above hrest hsome] at hmissing
          cases hmissing
      rw [text?, hempty]
    · rfl

/-! ## Written files -/

/-- The disk with the text in the file that the path names, perhaps with some more directories, and
without links. No directory was in the way. -/
structure Written (d : Disk) (p : Path) (text : String) (d' : Disk) : Prop where
  linkless : d'.Linkless
  current : d'.current = d.current
  directories : ∀ x, d.look x = some .directory → d'.look x = some .directory
  room : d.look (p.resolve d.current) ≠ some .directory
  text?_eq : ∀ x, d'.text? x = if x = p.resolve d.current then some text else d.text? x

namespace Written

variable {text text' : String}

/-- The directories of a file may be made before. -/
theorem of_grown (hgrown : Grown d d') (h : Written d' p text d'') : Written d p text d'' := by
  have hroom := h.room
  rw [hgrown.current] at hroom
  refine ⟨h.linkless, h.current.trans hgrown.current,
    fun x hx => h.directories x (hgrown.look_eq hx), mt hgrown.look_eq hroom, fun x => ?_⟩
  rw [h.text?_eq, hgrown.current, hgrown.text?_eq]

/-- The last text counts. -/
theorem trans (h : Written d p text d') (h' : Written d' p text' d'') :
    Written d p text' d'' := by
  refine ⟨h'.linkless, h'.current.trans h.current,
    fun x hx => h'.directories x (h.directories x hx), h.room, fun x => ?_⟩
  rw [h'.text?_eq, h.current, h.text?_eq]
  split <;> rfl

end Written

/-- **A file that is made lies where the path leads**, and no directory lay there. -/
theorem create_eq_ok {text : String} (h : d.create p text = .ok d') :
    ∃ place, d.slot true p = .ok place ∧ d.look place ≠ some .directory ∧
      d' = d.put place (.file text) := by
  unfold create at h
  cases hslot : d.slot true p with
  | error e =>
    rw [hslot] at h
    cases h
  | ok place =>
    rw [hslot] at h
    change (if (p.endsInSlash || d.look place == some .directory) = true then Except.error _
      else Except.ok _) = _ at h
    split at h
    · cases h
    · rename_i hfree
      obtain ⟨_, hroom⟩ := not_or.1 (mt Bool.or_eq_true_iff.2 hfree)
      exact ⟨place, rfl, mt beq_iff_eq.2 hroom, (Except.ok.inj h).symm⟩

theorem system_create (d : Disk) (p : Path) (text : String) : system.create p text d =
    match d.create p text with
    | .ok d' => (.ok (), d')
    | .error e => (.error e, d) := rfl

theorem Linkless.written (hlinks : d.Linkless) {text : String}
    (h : system.create p text d = (.ok (), d')) : Written d p text d' := by
  rw [system_create] at h
  cases hcreate : d.create p text with
  | error e =>
    rw [hcreate] at h
    cases h
  | ok made =>
    rw [hcreate] at h
    obtain rfl : made = d' := (Prod.mk.inj h).2
    obtain ⟨place, hslot, hroom, rfl⟩ := create_eq_ok hcreate
    obtain rfl := hlinks.slot_eq hslot
    have hne : p.resolve d.current ≠ [] := by
      intro hroot
      rw [hroot] at hroom
      exact hroom rfl
    refine ⟨hlinks.put hne text, rfl, fun x hx => ?_, hroom, text?_put d hne text⟩
    rw [look_put d hne, if_neg]
    · exact hx
    · rintro rfl
      exact hroom hx

theorem grown_makeParent (d : Disk) (p : Path) : Grown d (system.makeParent p d).2 := by
  unfold FileSystem.makeParent
  cases p.parent? with
  | none => exact .refl d
  | some dir => exact (made_makeDirs d dir).grown

/-- A file that is ensured was there, or is empty; its directories may be new. -/
theorem ensureFile_spec (hlinks : d.Linkless) (h : system.ensureFile p d = (.ok (), d')) :
    Grown d d' ∨ Written d p "" d' := by
  have hgrown := grown_makeParent d p
  unfold FileSystem.ensureFile at h
  cases hmake : system.makeParent p d with
  | mk o made =>
    rw [hmake] at hgrown
    rw [bind_eq hmake] at h
    cases o with
    | error e => cases h
    | ok u =>
      have hkind : system.kind? p made = (made.kind? p, made) := rfl
      simp only at h
      rw [bind_eq hkind] at h
      cases hk : made.kind? p with
      | some kind =>
        rw [hk] at h
        obtain rfl := (Prod.mk.inj h).2
        exact .inl hgrown
      | none =>
        rw [hk] at h
        exact .inr (((hgrown.linkless hlinks).written h).of_grown hgrown)

/-- **What writing does to the files of a disk.** -/
theorem written_of_write (hlinks : d.Linkless) {text : String}
    (h : system.writer.write p text d = (.ok (), d')) : Written d p text d' := by
  unfold FileWriter.write at h
  cases hensure : system.writer.ensureFile p d with
  | mk o ensured =>
    rw [bind_eq hensure] at h
    cases o with
    | error e => cases h
    | ok u =>
      rcases ensureFile_spec hlinks hensure with hgrown | hempty
      · exact ((hgrown.linkless hlinks).written h).of_grown hgrown
      · exact hempty.trans (hempty.linkless.written h)

end Disk

end TypedRequests
