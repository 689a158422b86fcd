import TypedRequests.Proofs.Files
import TypedRequests.Proofs.Places

/-!
# What emptying a directory does to a disk

Emptying is refused for a path without parent and for one that leads to the current directory. All
other paths are carried out: what lies inside the directory that a path leads to is gone, and where
a path leads nowhere, directories are made. A directory above the current one is no exception.

* `look_put`, `look_clear` : what lies at each place after a change.
* `Grown` : a disk with new directories.
* `Grown.slot_eq` : paths that lead somewhere still lead there.
* `Makes`, `makes_makeDirs` : making a directory only makes those on its path.
* `Emptied`, `emptied_spec` : what becomes of a disk.
* `emptyDir_spec` : when emptying is refused, what it leaves alone, and when the current directory
  survives.
-/

set_option autoImplicit false

namespace TypedRequests

namespace Disk

variable {d d' d'' : Disk} {p : Path} {x dir : Place}

/-! ## Entries -/

theorem lookup_filter_key {α β : Type} [BEq α] [LawfulBEq α] (keep : α → Bool)
    (es : List (α × β)) (key : α) :
    (es.filter fun e => keep e.1).lookup key = if keep key then es.lookup key else none := by
  induction es with
  | nil => simp
  | cons e es ih =>
    obtain ⟨k, v⟩ := e
    rw [List.filter_cons, List.lookup_cons]
    by_cases hk : key = k
    · subst hk
      cases hkeep : keep key with
      | true => simp
      | false => simp [ih, hkeep]
    · have hne : (key == k) = false := beq_eq_false_iff_ne.2 hk
      cases hkeep : keep k <;> simp [List.lookup_cons, hne, ih]

theorem look_put (d : Disk) {place : Place} (hplace : place ≠ []) (e : DiskEntry) (x : Place) :
    (d.put place e).look x = if x = place then some e else d.look x := by
  unfold look put
  by_cases hx : x = []
  · subst hx
    rw [if_pos rfl, if_pos rfl, if_neg hplace.symm]
  · rw [if_neg hx, if_neg hx, List.lookup_cons, lookup_filter_key fun k => k != place]
    by_cases h : x = place
    · simp [h]
    · have hne : (x == place) = false := beq_eq_false_iff_ne.2 h
      simp [h, hne]

/-- **Nothing is left inside a cleared directory, and all else is as it was.** -/
theorem look_clear (d : Disk) (dir x : Place) :
    (d.clear dir).look x = if isInside x dir then none else d.look x := by
  unfold look clear
  rw [lookup_filter_key fun k => !isInside k dir]
  by_cases hx : x = []
  · subst hx
    cases dir <;> simp [isInside]
  · cases h : isInside x dir <;> simp [hx]

theorem isInside_iff : isInside x dir = true ↔ dir <+: x ∧ x ≠ dir := by
  simp [isInside]

/-! ## Growth -/

/-- The disk with some more directories, where nothing was. -/
structure Grown (d d' : Disk) : Prop where
  current : d'.current = d.current
  look : ∀ x, d'.look x = d.look x ∨ (d.look x = none ∧ d'.look x = some .directory)

theorem Grown.refl (d : Disk) : Grown d d :=
  ⟨rfl, fun _ => Or.inl rfl⟩

theorem Grown.trans (h : Grown d d') (h' : Grown d' d'') : Grown d d'' := by
  refine ⟨h'.current.trans h.current, fun x => ?_⟩
  rcases h'.look x with hx' | ⟨hx', hnew⟩
  · rw [hx']
    exact h.look x
  · rcases h.look x with hx | ⟨_, hx⟩
    · exact Or.inr ⟨hx ▸ hx', hnew⟩
    · rw [hx] at hx'
      cases hx'

theorem Grown.look_eq {e : DiskEntry} (h : Grown d d') (hx : d.look x = some e) :
    d'.look x = some e := by
  rcases h.look x with he | ⟨hnone, _⟩
  · rw [he, hx]
  · rw [hx] at hnone
    cases hnone

/-- A step that succeeds stands in a directory. -/
theorem step_eq_ok {segment : List Char} {next : Place} (h : d.step x segment = .ok next) :
    d.look x = some .directory := by
  unfold step at h
  split at h
  · cases h
  · cases h
  · cases h
  · assumption

theorem Grown.step_eq {segment : List Char} {next : Place} (h : Grown d d')
    (hstep : d.step x segment = .ok next) : d'.step x segment = .ok next := by
  have hx := step_eq_ok hstep
  unfold step at hstep ⊢
  rw [hx] at hstep
  rw [h.look_eq hx]
  exact hstep

/-- Steps that succeed go the same way on a grown disk. -/
theorem Grown.walk_eq {followLast : Bool} {segments : List (List Char)} {stop : Stop}
    (h : Grown d d') (hwalk : d.walk followLast x segments = .ok stop) :
    d'.walk followLast x segments = .ok stop := by
  induction segments generalizing x with
  | nil => exact hwalk
  | cons segment rest ih =>
    rw [walk] at hwalk ⊢
    cases hstep : d.step x segment with
    | error e =>
      rw [hstep] at hwalk
      cases hwalk
    | ok next =>
      rw [h.step_eq hstep]
      simp only [hstep] at hwalk ⊢
      cases hnext : d.look next with
      | some entry =>
        rw [h.look_eq hnext]
        rw [hnext] at hwalk
        cases entry with
        | link target => exact hwalk
        | directory => exact ih hwalk
        | file text => exact ih hwalk
      | none =>
        -- nothing lies there, and so the path ends
        rw [hnext] at hwalk
        simp only at hwalk
        have hrest : d'.walk followLast next rest = .ok stop := ih hwalk
        rcases h.look next with he | ⟨_, he⟩
        · rw [he, hnext]
          exact hrest
        · rw [he]
          exact hrest

theorem Grown.walkLinks_eq {followLast : Bool} {links : Nat} {segments : List (List Char)}
    {place : Place} (h : Grown d d')
    (hwalk : d.walkLinks followLast links x segments = .ok place) :
    d'.walkLinks followLast links x segments = .ok place := by
  fun_induction walkLinks d followLast links x segments with
  | case1 => cases hwalk
  | case2 links x segments next hstop =>
    rw [walkLinks, h.walk_eq hstop]
    exact hwalk
  | case3 => cases hwalk
  | case4 x segments dir target rest hstop links ih =>
    rw [walkLinks, h.walk_eq hstop]
    exact ih hwalk

theorem Grown.slot_eq {followLast : Bool} {place : Place} (h : Grown d d')
    (hslot : d.slot followLast p = .ok place) : d'.slot followLast p = .ok place := by
  unfold slot follow at hslot ⊢
  rw [h.current]
  split at hslot
  · cases hslot
  · split at hslot
    · cases hslot
    · split at hslot
      · cases hslot
      · rename_i htext hzero hlength
        rw [if_neg htext, if_neg hzero, if_neg hlength]
        exact h.walkLinks_eq hslot

/-! ## Causes of failures -/

theorem step_ne_refused {segment : List Char} {q : Path} :
    d.step x segment ≠ .error (.refused q) := by
  intro h
  unfold step at h
  repeat' split at h
  all_goals cases h

theorem walk_ne_refused {followLast : Bool} {segments : List (List Char)} {q : Path} :
    d.walk followLast x segments ≠ .error (.refused q) := by
  intro h
  fun_induction walk d followLast x segments with
  | case1 => cases h
  | case2 x segment rest e hstep =>
    obtain rfl := Except.error.inj h
    exact step_ne_refused hstep
  | case3 => cases h
  | case4 => cases h
  | case5 x segment rest next hstep hlook ih => exact ih h

theorem walkLinks_ne_refused {followLast : Bool} {links : Nat} {segments : List (List Char)}
    {q : Path} : d.walkLinks followLast links x segments ≠ .error (.refused q) := by
  intro h
  fun_induction walkLinks d followLast links x segments with
  | case1 links x segments e hwalk =>
    obtain rfl := Except.error.inj h
    exact walk_ne_refused hwalk
  | case2 => cases h
  | case3 => cases h
  | case4 x segments dir target rest hwalk links ih => exact ih h

theorem slot_ne_refused {followLast : Bool} {q : Path} :
    d.slot followLast p ≠ .error (.refused q) := by
  intro h
  unfold slot follow at h
  split at h
  · cases h
  · split at h
    · cases h
    · split at h
      · cases h
      · exact walkLinks_ne_refused h

/-! ## Making directories -/

/-- A step that only makes directories which these paths lead to, and is never refused. -/
structure Made (ps : List Path) (d : Disk) (o : Except FileError Unit) (d' : Disk) : Prop where
  grown : Grown d d'
  made : ∀ x, d'.look x ≠ d.look x → ∃ p ∈ ps, d'.slot false p = .ok x
  notRefused : ∀ q, o ≠ .error (.refused q)

namespace Made

variable {ps ps' : List Path} {o o' : Except FileError Unit}

theorem unchanged (ho : ∀ q, o ≠ .error (.refused q)) : Made ps d o d :=
  ⟨.refl d, fun _ h => absurd rfl h, ho⟩

theorem mono (h : Made ps d o d') (hsub : ps ⊆ ps') : Made ps' d o d' :=
  ⟨h.grown, fun x hx => (h.made x hx).imp fun _ hp => ⟨hsub hp.1, hp.2⟩, h.notRefused⟩

theorem trans (h : Made ps d o d') (h' : Made ps d' o' d'') : Made ps d o' d'' := by
  refine ⟨h.grown.trans h'.grown, fun x hx => ?_, h'.notRefused⟩
  by_cases hlater : d''.look x = d'.look x
  · obtain ⟨p, hp, hslot⟩ := h.made x (hlater ▸ hx)
    exact ⟨p, hp, h'.grown.slot_eq hslot⟩
  · exact h'.made x hlater

end Made

/-- **A new directory lies where the path leads**, and nothing lay there. -/
theorem makeDir_eq_ok (h : d.makeDir p = .ok d') :
    ∃ place, d.slot false p = .ok place ∧ d.look place = none ∧ d' = d.put place .directory := by
  unfold makeDir at h
  cases hslot : d.slot false p with
  | error e =>
    rw [hslot] at h
    cases h
  | ok place =>
    rw [hslot] at h
    change (if (d.look place).isSome then Except.error _ else Except.ok _) = _ at h
    split at h
    · cases h
    · rename_i hnone
      exact ⟨place, rfl, by simpa using hnone, (Except.ok.inj h).symm⟩

theorem makeDir_ne_refused {q : Path} : d.makeDir p ≠ .error (.refused q) := by
  intro h
  unfold makeDir at h
  cases hslot : d.slot false p with
  | error e =>
    rw [hslot] at h
    obtain rfl := Except.error.inj h
    exact slot_ne_refused hslot
  | ok place =>
    rw [hslot] at h
    change (if (d.look place).isSome then Except.error _ else Except.ok _) = _ at h
    split at h <;> cases h

theorem grown_put {place : Place} (h : d.look place = none) : Grown d (d.put place .directory) := by
  have hplace : place ≠ [] := by
    rintro rfl
    cases h
  refine ⟨rfl, fun x => ?_⟩
  rw [look_put d hplace]
  split
  · rename_i hx
    subst hx
    exact Or.inr ⟨h, rfl⟩
  · exact Or.inl rfl

theorem system_makeDir (d : Disk) (p : Path) : system.makeDir p d =
    match d.makeDir p with
    | .ok d' => (.ok (), d')
    | .error e => (.error e, d) := rfl

theorem made_makeDir (d : Disk) (p : Path) :
    Made [p] d (system.makeDir p d).1 (system.makeDir p d).2 := by
  rw [system_makeDir]
  cases hmake : d.makeDir p with
  | error e =>
    exact .unchanged fun q he => makeDir_ne_refused (hmake.trans (congrArg _ (Except.error.inj he)))
  | ok made =>
    obtain ⟨place, hslot, hnone, rfl⟩ := makeDir_eq_ok hmake
    have hplace : place ≠ [] := by
      rintro rfl
      cases hnone
    refine ⟨grown_put hnone, fun x hx => ?_, nofun⟩
    change (d.put place .directory).look x ≠ _ at hx
    rw [look_put d hplace] at hx
    obtain rfl : x = place := Decidable.byContradiction fun hne => hx (if_neg hne)
    exact ⟨p, List.mem_singleton.2 rfl, (grown_put hnone).slot_eq hslot⟩

theorem made_unlessPresent {ps : List Path} {o : Except FileError Unit} (h : Made ps d o d')
    (p : Path) :
    Made ps d (system.unlessPresent p o d').1 (system.unlessPresent p o d').2 := by
  cases o with
  | ok u => exact h
  | error e =>
    change Made ps d (if d'.kind? p = some .directory then .ok () else .error e) d'
    split
    · exact ⟨h.grown, h.made, nofun⟩
    · exact h

/-- **Only missing directories of a path are made.** -/
theorem made_makeChain (d : Disk) (ps : List Path) :
    Made ps d (system.makeChain ps d).1 (system.makeChain ps d).2 := by
  induction ps generalizing d with
  | nil => exact .unchanged nofun
  | cons p ps ih =>
    have hfirst := (made_makeDir d p).mono (List.cons_subset_cons p (List.nil_subset ps))
    rw [FileSystem.makeChain]
    split
    · exact .unchanged nofun
    · cases hmake : system.makeDir p d with
      | mk o made =>
        rw [hmake] at hfirst
        rw [bind_eq hmake]
        cases o with
        | ok u => exact made_unlessPresent hfirst p
        | error e =>
          cases e with
          | notFound =>
            -- those above are made first, and then it is tried again
            have habove := (ih made).mono (List.subset_cons_self p ps)
            cases hchain : system.makeChain ps made with
            | mk o above =>
              rw [hchain] at habove
              simp only
              rw [bind_eq hchain]
              cases o with
              | error e => exact hfirst.trans habove
              | ok u =>
                have hagain := (made_makeDir above p).mono
                  (List.cons_subset_cons p (List.nil_subset ps))
                cases hmake : system.makeDir p above with
                | mk o again =>
                  rw [hmake] at hagain
                  simp only
                  rw [bind_eq hmake]
                  exact made_unlessPresent (hfirst.trans (habove.trans hagain)) p
          | _ => exact made_unlessPresent hfirst p

theorem made_makeDirs (d : Disk) (p : Path) :
    Made (p :: p.ancestors) d (system.makeDirs p d).1 (system.makeDirs p d).2 :=
  made_makeChain d (p :: p.ancestors)

/-! ## Emptying -/

/-- The outcome of emptying a path, and the disk behind it. -/
def emptied (d : Disk) (p : Path) : Except FileError Unit × Disk :=
  (system.emptyDir p).run d

/-- The path has no parent, or leads to the current directory. -/
def Guarded (d : Disk) (p : Path) : Prop :=
  p.parent? = none ∨ d.kind? p ≠ none ∧ d.place p = .ok d.current

/-- What becomes of a disk when a path is emptied. -/
inductive Emptied (d : Disk) (p : Path) : Except FileError Unit → Disk → Prop where
  | refused (h : d.Guarded p) : Emptied d p (.error (.refused p)) d
  /-- The current directory is not there any more. -/
  | lost (hparent : p.parent? ≠ none) (hcurrent : d.look d.current = none) :
      Emptied d p (.error .notFound) d
  | file {place : Place} {text : String} (hparent : p.parent? ≠ none)
      (hplace : d.place p = .ok place) (hfile : d.look place = some (.file text))
      (hne : place ≠ d.current) : Emptied d p (.error .notDirectory) d
  | cleared {place : Place} (hparent : p.parent? ≠ none) (hplace : d.place p = .ok place)
      (hdirectory : d.look place = some .directory) (hne : place ≠ d.current) :
      Emptied d p (.ok ()) (d.clear place)
  /-- The path leads nowhere. -/
  | made {o : Except FileError Unit} {d' : Disk} (hparent : p.parent? ≠ none)
      (hnone : d.kind? p = none) (hmade : Made (p :: p.ancestors) d o d') : Emptied d p o d'

theorem kind?_eq_some {kind : FileKind} (h : d.kind? p = some kind) :
    ∃ place, d.place p = .ok place ∧
      (d.look place = some .directory ∨ ∃ text, d.look place = some (.file text)) := by
  unfold kind? at h
  cases hplace : d.place p with
  | error e =>
    rw [hplace] at h
    cases h
  | ok place =>
    rw [hplace] at h
    refine ⟨place, rfl, ?_⟩
    obtain ⟨e, he, hkind⟩ := Option.bind_eq_some_iff.1 h
    cases e with
    | directory => exact Or.inl he
    | file text => exact Or.inr ⟨text, he⟩
    | link target => cases hkind

/-- Emptying, once it is known where the path leads. -/
theorem emptied_eq (d : Disk) (p : Path) : d.emptied p =
    if p.parent?.isNone then (.error (.refused p), d)
    else match d.kind? p with
      | none => system.makeDirs p d
      | some _ =>
        match d.isCurrent p with
        | .error e => (.error e, d)
        | .ok true => (.error (.refused p), d)
        | .ok false => system.clearDir p d := by
  have hkind : system.kind? p d = (d.kind? p, d) := rfl
  have hcurrent : system.isCurrent p d = (d.isCurrent p, d) := rfl
  change FileSystem.emptyDir system p d = _
  unfold FileSystem.emptyDir FileSystem.isProtected
  split
  · rfl
  · simp only [bind_assoc]
    rw [bind_eq hkind]
    cases hk : d.kind? p with
    | none =>
      simp only [pure_bind]
      rw [bind_eq hkind, hk]
    | some kind =>
      simp only
      rw [bind_eq hcurrent]
      cases hc : d.isCurrent p with
      | error e => rfl
      | ok current =>
        cases current with
        | true => rfl
        | false =>
          simp only
          rw [bind_eq hkind, hk]

theorem isCurrent_eq {place : Place} (h : d.place p = .ok place) :
    d.isCurrent p =
      if (d.look d.current).isNone then .error .notFound else .ok (place == d.current) := by
  unfold isCurrent
  rw [h]
  split <;> rfl

theorem clearDir_eq {place : Place} (h : d.place p = .ok place) :
    d.clearDir p =
      match d.look place with
      | none => .error .notFound
      | some (.file _) | some (.link _) => .error .notDirectory
      | some .directory => .ok (d.clear place) := by
  unfold clearDir
  rw [h]
  rfl

theorem system_clearDir (d : Disk) (p : Path) : system.clearDir p d =
    match d.clearDir p with
    | .ok d' => (.ok (), d')
    | .error e => (.error e, d) := rfl

/-- **Every run of emptying is one of these cases.** -/
theorem emptied_spec (d : Disk) (p : Path) :
    Emptied d p (d.emptied p).1 (d.emptied p).2 := by
  rw [emptied_eq]
  split
  · rename_i hparent
    exact .refused (Or.inl (Option.isNone_iff_eq_none.1 hparent))
  · rename_i hparent
    replace hparent : p.parent? ≠ none := fun hnone => hparent (Option.isNone_iff_eq_none.2 hnone)
    cases hkind : d.kind? p with
    | none => exact .made hparent hkind (made_makeDirs d p)
    | some kind =>
      obtain ⟨place, hplace, hlook⟩ := kind?_eq_some hkind
      simp only
      rw [isCurrent_eq hplace]
      by_cases hcurrent : d.look d.current = none
      · rw [if_pos (Option.isNone_iff_eq_none.2 hcurrent)]
        exact .lost hparent hcurrent
      · rw [if_neg (mt Option.isNone_iff_eq_none.1 hcurrent)]
        by_cases hne : place = d.current
        · subst hne
          simp only [BEq.rfl]
          exact .refused (Or.inr ⟨by simp [hkind], hplace⟩)
        · rw [beq_eq_false_iff_ne.2 hne]
          simp only
          rw [system_clearDir, clearDir_eq hplace]
          rcases hlook with hdirectory | ⟨text, hfile⟩
          · rw [hdirectory]
            exact .cleared hparent hplace hdirectory hne
          · rw [hfile]
            exact .file hparent hplace hfile hne

/-! ## Disks without links -/

/-- No link lies on the disk. -/
def Linkless (d : Disk) : Prop :=
  ∀ x target, d.look x ≠ some (.link target)

/-- A step leads where its part does. -/
theorem step_eq_move {segment : List Char} {next : Place} (h : d.step x segment = .ok next) :
    next = (Path.innerPart segment).toList.foldl PathPart.move x := by
  have hdirectory := step_eq_ok h
  unfold step at h
  rw [hdirectory] at h
  simp only at h
  unfold Path.innerPart at h ⊢
  split
  · rename_i hnone
    rw [if_pos hnone] at h
    exact (Except.ok.inj h).symm
  · rename_i hsome
    rw [if_neg hsome] at h
    split
    · rename_i hup
      rw [if_pos hup] at h
      exact (Except.ok.inj h).symm
    · rename_i hname
      rw [if_neg hname] at h
      simp only at h
      split at h
      · cases h
      · exact (Except.ok.inj h).symm

theorem Linkless.walk_eq {followLast : Bool} {segments : List (List Char)} {stop : Stop}
    (h : d.Linkless) (hwalk : d.walk followLast x segments = .ok stop) :
    stop = .here ((segments.filterMap Path.innerPart).foldl PathPart.move x) := by
  fun_induction walk d followLast x segments with
  | case1 => exact (Except.ok.inj hwalk).symm
  | case2 => cases hwalk
  | case3 x segment rest next hstep target hlook => exact absurd hlook (h next target)
  | case4 x segment rest next hstep target hlook => exact absurd hlook (h next target)
  | case5 x segment rest next hstep hlook ih =>
    rw [ih hwalk, step_eq_move hstep]
    cases hpart : Path.innerPart segment with
    | none => rw [List.filterMap_cons_none hpart]; rfl
    | some part => rw [List.filterMap_cons_some hpart]; rfl

/-- **Without links a path leads to the place that it names.** -/
theorem Linkless.place_eq {place : Place} (h : d.Linkless) (hplace : d.place p = .ok place) :
    place = p.resolve d.current := by
  unfold Disk.place follow at hplace
  split at hplace
  · cases hplace
  · split at hplace
    · cases hplace
    · split at hplace
      · cases hplace
      · rw [walkLinks] at hplace
        cases hwalk : d.walk true (if p.isAbsolute then [] else d.current) p.segments with
        | error e =>
          rw [hwalk] at hplace
          cases hplace
        | ok stop =>
          rw [hwalk] at hplace
          obtain rfl := h.walk_eq hwalk
          rw [← Except.ok.inj hplace, Path.resolve_eq, Path.steps_eq]
          split <;> rfl

/-! ## What is refused, and what survives -/

theorem kind?_of_directory {place : Place} (h : d.place p = .ok place)
    (hdirectory : d.look place = some .directory) : d.kind? p = some .directory := by
  unfold kind?
  rw [h]
  simp only [hdirectory]
  rfl

theorem not_guarded {place : Place} (hparent : p.parent? ≠ none) (hplace : d.place p = .ok place)
    (hne : place ≠ d.current) : ¬ d.Guarded p := by
  rintro (hnone | ⟨_, hcurrent⟩)
  · exact hparent hnone
  · exact hne (Except.ok.inj (hplace.symm.trans hcurrent))

theorem not_guarded_of_lost (hparent : p.parent? ≠ none) (hcurrent : d.look d.current = none) :
    ¬ d.Guarded p := by
  rintro (hnone | ⟨hkind, hplace⟩)
  · exact hparent hnone
  · obtain ⟨kind, hkind⟩ := Option.ne_none_iff_exists'.1 hkind
    obtain ⟨place, hplace', hlook⟩ := kind?_eq_some hkind
    obtain rfl := Except.ok.inj (hplace.symm.trans hplace')
    rw [hcurrent] at hlook
    rcases hlook with hlook | ⟨_, hlook⟩ <;> cases hlook

namespace Emptied

variable {o : Except FileError Unit}

/-- **Emptying is refused exactly for paths without parent, and for those that lead to the current
directory.** -/
theorem refused_iff (h : Emptied d p o d') : o = .error (.refused p) ↔ d.Guarded p := by
  cases h with
  | refused h => exact ⟨fun _ => h, fun _ => rfl⟩
  | lost hparent hcurrent => exact ⟨nofun, fun h => absurd h (not_guarded_of_lost hparent hcurrent)⟩
  | file hparent hplace _ hne => exact ⟨nofun, fun h => absurd h (not_guarded hparent hplace hne)⟩
  | cleared hparent hplace _ hne =>
    exact ⟨nofun, fun h => absurd h (not_guarded hparent hplace hne)⟩
  | made hparent hnone hmade =>
    exact ⟨fun he => absurd he (hmade.notRefused p),
      fun h => h.elim (absurd · hparent) fun h => absurd hnone h.1⟩

theorem unchanged_of_refused (h : Emptied d p o d') (ho : o = .error (.refused p)) : d' = d := by
  cases h with
  | refused => rfl
  | lost => rfl
  | file => rfl
  | cleared => cases ho
  | made hparent hnone hmade => exact absurd ho (hmade.notRefused p)

/-- **A directory that is not refused is empty afterwards**, if the current one is there. -/
theorem look_inside (h : Emptied d p o d') (ho : o ≠ .error (.refused p))
    (hcurrent : d.look d.current ≠ none) {place : Place} (hplace : d.place p = .ok place)
    (hdirectory : d.look place = some .directory) :
    o = .ok () ∧ ∀ x, isInside x place = true → d'.look x = none := by
  cases h with
  | refused => exact absurd rfl ho
  | lost _ hnone => exact absurd hnone hcurrent
  | file _ hplace' hfile _ =>
    obtain rfl := Except.ok.inj (hplace.symm.trans hplace')
    rw [hdirectory] at hfile
    cases hfile
  | cleared _ hplace' _ _ =>
    obtain rfl := Except.ok.inj (hplace.symm.trans hplace')
    refine ⟨rfl, fun x hx => ?_⟩
    rw [look_clear, if_pos hx]
  | made _ hnone _ =>
    rw [kind?_of_directory hplace hdirectory] at hnone
    cases hnone

/-- **What does not lie inside the directory stays as it is**; where nothing was, a directory on the
path may be new. -/
theorem look_eq (h : Emptied d p o d')
    (hx : ∀ place, d.place p = .ok place → d.look place = some .directory →
      isInside x place = false) :
    d'.look x = d.look x ∨
      d.kind? p = none ∧ d.look x = none ∧ d'.look x = some .directory ∧
        ∃ q ∈ p :: p.ancestors, d'.slot false q = .ok x := by
  cases h with
  | refused => exact Or.inl rfl
  | lost => exact Or.inl rfl
  | file => exact Or.inl rfl
  | cleared hparent hplace hdirectory hne =>
    rw [look_clear, hx _ hplace hdirectory]
    exact Or.inl rfl
  | made hparent hnone hmade =>
    by_cases heq : d'.look x = d.look x
    · exact Or.inl heq
    · rcases hmade.grown.look x with hsame | ⟨hold, hnew⟩
      · exact absurd hsame heq
      · exact Or.inr ⟨hnone, hold, hnew, hmade.made x heq⟩

/-- **The current directory is lost exactly if the path leads to a directory above it.** -/
theorem current_lost_iff (h : Emptied d p o d') (hcurrent : d.look d.current ≠ none) :
    d'.look d.current ≠ d.look d.current ↔
      p.parent? ≠ none ∧ ∃ place, d.place p = .ok place ∧ d.look place = some .directory ∧
        isInside d.current place = true := by
  cases h with
  | refused h =>
    refine ⟨fun hne => absurd rfl hne, fun hlost => ?_⟩
    obtain ⟨hparent, place, hplace, _, hinside⟩ := hlost
    have hne : place ≠ d.current := (isInside_iff.1 hinside).2.symm
    exact absurd h (not_guarded hparent hplace hne)
  | lost _ hnone => exact absurd hnone hcurrent
  | file _ hplace hfile _ =>
    refine ⟨fun hne => absurd rfl hne, fun hlost => ?_⟩
    obtain ⟨_, place, hplace', hdirectory, _⟩ := hlost
    obtain rfl := Except.ok.inj (hplace.symm.trans hplace')
    rw [hfile] at hdirectory
    cases hdirectory
  | @cleared place hparent hplace hdirectory hne =>
    rw [look_clear]
    constructor
    · intro hlost
      exact ⟨hparent, place, hplace, hdirectory,
        Decidable.byContradiction fun hinside => hlost (if_neg hinside)⟩
    · rintro ⟨_, place', hplace', _, hinside⟩
      obtain rfl := Except.ok.inj (hplace.symm.trans hplace')
      rw [if_pos hinside]
      exact hcurrent.symm
  | made hparent hnone hmade =>
    refine ⟨fun hne => ?_, fun hlost => ?_⟩
    · rcases hmade.grown.look d.current with hsame | ⟨hold, _⟩
      · exact absurd hsame hne
      · exact absurd hold hcurrent
    · obtain ⟨_, place, hplace, hdirectory, _⟩ := hlost
      rw [kind?_of_directory hplace hdirectory] at hnone
      cases hnone

end Emptied

/-- **What emptying does.** It is refused, and the disk stays as it is, exactly for a path without
parent and for one that leads to the current directory. Any other directory is empty afterwards.
Whatever comes of it, all that does not lie inside the directory that the path leads to stays as it
is, and only directories on the path are new. The current directory is lost exactly if the path
leads to a directory above it. Without links the place that a path leads to is the one that its
parts name. -/
theorem emptyDir_spec (d : Disk) (p : Path) :
    ∃ o d', d.emptied p = (o, d') ∧
      (o = .error (.refused p) ↔
        p.parent? = none ∨ d.kind? p ≠ none ∧ d.place p = .ok d.current) ∧
      (o = .error (.refused p) → d' = d) ∧
      (o ≠ .error (.refused p) → d.look d.current ≠ none → ∀ place, d.place p = .ok place →
        d.look place = some .directory →
          o = .ok () ∧ ∀ x, isInside x place = true → d'.look x = none) ∧
      (∀ x, (∀ place, d.place p = .ok place → d.look place = some .directory →
          isInside x place = false) →
        d'.look x = d.look x ∨
          d.kind? p = none ∧ d.look x = none ∧ d'.look x = some .directory ∧
            ∃ q ∈ p :: p.ancestors, d'.slot false q = .ok x) ∧
      (d.look d.current ≠ none →
        (d'.look d.current ≠ d.look d.current ↔
          p.parent? ≠ none ∧ ∃ place, d.place p = .ok place ∧ d.look place = some .directory ∧
            isInside d.current place = true)) ∧
      (d.Linkless → ∀ place, d.place p = .ok place → place = p.resolve d.current) :=
  have h := emptied_spec d p
  ⟨_, _, rfl, h.refused_iff, h.unchanged_of_refused,
    fun ho hcurrent _ hplace hdirectory => h.look_inside ho hcurrent hplace hdirectory,
    fun _ hx => h.look_eq hx, h.current_lost_iff, fun hlinks _ hplace => hlinks.place_eq hplace⟩

/-- A disk on which the current directory holds a link to itself. -/
def selfDisk : Disk where
  entries := [(["work"], .directory), (["work", "self"], .link ⟨"../work/."⟩)]
  current := ["work"]

example : selfDisk.emptied ⟨"self/"⟩ = (.error (.refused ⟨"self/"⟩), selfDisk) := rfl

/-- A disk on which the current directory lies beside a file. -/
def homeDisk : Disk where
  entries := [(["home"], .directory), (["home", "notes"], .file "mine"),
    (["home", "work"], .directory), (["home", "work", "index.ts"], .file "")]
  current := ["home", "work"]

/-- The directories above the current one are emptied with all that lies in them, and a name of the
current directory through one that is missing is not refused. -/
theorem emptied_above_current :
    homeDisk.emptied ⟨".."⟩ = (.ok (), ⟨[(["home"], .directory)], ["home", "work"]⟩) ∧
    homeDisk.emptied ⟨"/.."⟩ = (.ok (), ⟨[], ["home", "work"]⟩) ∧
    (⟨"missing/.."⟩ : Path).resolve homeDisk.current = homeDisk.current ∧
    homeDisk.emptied ⟨"missing/.."⟩ =
      (.ok (), homeDisk.put ["home", "work", "missing"] .directory) :=
  ⟨rfl, rfl, rfl, rfl⟩

end Disk

end TypedRequests
