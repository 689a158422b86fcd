import TypedRequests.Disk
import TypedRequests.Proofs.Paths

/-!
# Places that paths name

A path names a place: its parts are taken one after the other, whatever lies there. This is how a
path is read without a look at the disk.

* `PathPart.move`, `Path.resolve` : the place that a path names from a directory.
* `PathPart.climb`, `PathPart.foldl_move_inj` : from where the same parts lead to the same place.
* `PathPart.foldl_move_back` : as many steps up as there are parts lead back, if none of them went
  up itself.
* `Path.steps_join` : the steps of a path inside a directory.
* `Path.inner_intercalate` : the parts of a text that was put together from parts.
-/

set_option autoImplicit false

namespace TypedRequests

/-! ## Moves -/

namespace PathPart

/-- The place that a part leads to. -/
def move (place : Place) : PathPart → Place
  | root => []
  | here => place
  | up => place.dropLast
  | name s => place ++ [s]

/-- How many steps up parts climb above the place that they start from. -/
def climb : List PathPart → Nat
  | [] => 0
  | up :: ps => climb ps + 1
  | name _ :: ps => climb ps - 1
  | _ :: ps => climb ps

theorem climb_root (ps : List PathPart) : climb (root :: ps) = climb ps := rfl

theorem move_up (place : Place) : move place up = place.take (place.length - 1) :=
  List.dropLast_eq_take

/-- **The same parts lead to the same place exactly from places that agree below the climb.** -/
theorem foldl_move_inj {ps : List PathPart} (h : root ∉ ps) (a b : Place) :
    ps.foldl move a = ps.foldl move b ↔
      a.take (a.length - climb ps) = b.take (b.length - climb ps) := by
  induction ps generalizing a b with
  | nil => simp [climb]
  | cons p ps ih =>
    obtain ⟨hp, hps⟩ := not_or.1 (mt List.mem_cons.2 h)
    rw [List.foldl_cons, List.foldl_cons, ih hps]
    cases p with
    | root => exact absurd rfl hp
    | here => rfl
    | up =>
      have hup : ∀ c : Place, (move c up).take ((move c up).length - climb ps) =
          c.take (c.length - climb (up :: ps)) := by
        intro c
        rw [move_up, List.take_take, List.length_take, climb]
        congr 1
        omega
      rw [hup, hup]
    | name s =>
      rw [climb]
      cases climb ps with
      | zero =>
        simp only [Nat.zero_sub, Nat.sub_zero, List.take_length]
        exact List.append_left_inj [s]
      | succ k =>
        -- the name is climbed over again
        have hname : ∀ c : Place, (move c (name s)).take ((move c (name s)).length - (k + 1)) =
            c.take (c.length - k) := by
          intro c
          rw [move, List.length_append, List.length_singleton, Nat.add_sub_add_right]
          exact List.take_append_of_le_length (Nat.sub_le ..)
        rw [hname, hname, Nat.add_sub_cancel]

/-- Parts lead to the same place from another one on the way to it exactly if they climb over what
is missing. -/
theorem foldl_move_take_iff {ps : List PathPart} (h : root ∉ ps) (place : Place) (n : Nat) :
    ps.foldl move (place.take (place.length - n)) = ps.foldl move place ↔
      n = 0 ∨ place.length ≤ climb ps := by
  rw [foldl_move_inj h, List.take_take, List.length_take, List.take_eq_take_iff]
  omega

/-- **Steps up, one for each part, lead back past the place by two steps for each part that went up
itself.** -/
theorem foldl_move_back {ps : List PathPart} (hroot : root ∉ ps) (hhere : here ∉ ps)
    (place : Place) :
    (List.replicate ps.length up).foldl move (ps.foldl move place) =
      place.take (place.length - 2 * ps.count up) := by
  induction ps generalizing place with
  | nil => simp
  | cons p ps ih =>
    obtain ⟨hp, hroot⟩ := not_or.1 (mt List.mem_cons.2 hroot)
    obtain ⟨hp', hhere⟩ := not_or.1 (mt List.mem_cons.2 hhere)
    -- the last step up undoes the first part, or is one more if that went up
    rw [List.length_cons, List.replicate_succ', List.foldl_append]
    change move ((List.replicate ps.length up).foldl move (ps.foldl move (move place p))) up = _
    rw [ih hroot hhere]
    cases p with
    | root => exact absurd rfl hp
    | here => exact absurd rfl hp'
    | up =>
      rw [List.count_cons_self, move_up, move_up, List.take_take, List.take_take,
        List.length_take, List.length_take]
      congr 1
      omega
    | name s =>
      rw [List.count_cons_of_ne PathPart.noConfusion, move_up, List.take_take, List.length_take,
        move, List.length_append, List.length_singleton,
        List.take_append_of_le_length (by omega)]
      congr 1
      omega

end PathPart

/-! ## Pieces between slashes -/

theorem Text.not_mem_of_mem_splitOn {separator : Char} {cs piece : List Char}
    (h : piece ∈ splitOn separator cs) : separator ∉ piece := by
  induction cs generalizing piece with
  | nil => simp_all [splitOn]
  | cons c cs ih =>
    rw [splitOn] at h
    by_cases hc : c = separator
    · rw [if_pos hc] at h
      rcases List.mem_cons.1 h with rfl | h
      · exact List.not_mem_nil
      · exact ih h
    · rw [if_neg hc] at h
      cases hs : splitOn separator cs with
      | nil => exact absurd hs (splitOn_ne_nil separator cs)
      | cons q qs =>
        rw [hs] at h ih
        rcases List.mem_cons.1 h with rfl | h
        · exact fun hm => (List.mem_cons.1 hm).elim (Ne.symm hc) (ih (List.mem_cons_self ..))
        · exact ih (List.mem_cons_of_mem _ h)

namespace Path

variable {p dir : Path}

/-- A part that a segment stands for: a step up, or a plain name. -/
inductive Inner : PathPart → Prop where
  | up : Inner .up
  | name {s : String} (h : PlainName s) : Inner (.name s)

/-- The parts that the segments of a path stand for. -/
def inner (p : Path) : List PathPart :=
  p.segments.filterMap innerPart

theorem innerPart_spec {segment : List Char} {part : PathPart} (hslash : '/' ∉ segment)
    (h : innerPart segment = some part) : Inner part := by
  unfold innerPart at h
  split at h
  · cases h
  · rename_i hsegment
    obtain ⟨hempty, hhere⟩ := not_or.1 hsegment
    split at h
    · exact Option.some.inj h ▸ .up
    · rename_i hup
      refine Option.some.inj h ▸ .name ⟨?_, ?_, ?_, ?_⟩
      · rwa [String.toList_ofList]
      · exact fun he => hempty (by rw [← String.toList_ofList (l := segment), he]; rfl)
      · exact fun he => hhere (by rw [← String.toList_ofList (l := segment), he]; rfl)
      · exact fun he => hup (by rw [← String.toList_ofList (l := segment), he]; rfl)

/-- The inner parts of a path go up, or are plain names. -/
theorem inner_of_mem {part : PathPart} (h : part ∈ p.inner) : Inner part := by
  obtain ⟨segment, hsegment, hpart⟩ := List.mem_filterMap.1 h
  exact innerPart_spec (Text.not_mem_of_mem_splitOn hsegment) hpart

theorem root_not_mem_inner : PathPart.root ∉ p.inner :=
  fun h => nomatch inner_of_mem h

theorem here_not_mem_inner : PathPart.here ∉ p.inner :=
  fun h => nomatch inner_of_mem h

/-- **The steps of a path are its inner parts, from the root if it begins there.** -/
theorem steps_eq (p : Path) :
    p.steps = if p.isAbsolute then .root :: p.inner else p.inner := by
  have hinner : p.inner.filter (· ≠ .here) = p.inner :=
    List.filter_eq_self.2 fun part hpart =>
      decide_eq_true fun he => here_not_mem_inner (he ▸ hpart)
  unfold steps parts
  rw [← inner]
  split
  · rw [List.filter_cons_of_pos rfl, hinner]
  · split
    · rw [List.filter_cons_of_neg (by decide), hinner]
    · exact hinner

theorem steps_of_absolute (h : p.isAbsolute = true) : p.steps = .root :: p.inner := by
  rw [steps_eq, if_pos h]

theorem steps_of_relative (h : p.isAbsolute = false) : p.steps = p.inner := by
  rw [steps_eq, h]
  rfl

/-! ## Resolution -/

/-- The place that a path names from a directory. -/
def resolve (p : Path) (place : Place) : Place :=
  p.parts.foldl PathPart.move place

theorem foldl_move_filter_here (ps : List PathPart) (place : Place) :
    (ps.filter (· ≠ .here)).foldl PathPart.move place = ps.foldl PathPart.move place := by
  induction ps generalizing place with
  | nil => rfl
  | cons p ps ih => cases p <;> exact ih _

theorem resolve_eq (p : Path) (place : Place) :
    p.resolve place = p.steps.foldl PathPart.move place :=
  (foldl_move_filter_here ..).symm

theorem resolve_of_relative (h : p.isAbsolute = false) (place : Place) :
    p.resolve place = p.inner.foldl PathPart.move place := by
  rw [resolve_eq, steps_of_relative h]

/-! ## Joined paths -/

/-- **The steps of a path inside a directory are those of the directory, and its own.** -/
theorem steps_join (dir : Path) (h : p.isAbsolute = false) :
    (dir.join p).steps = dir.steps ++ p.steps := by
  have happend : ∀ {q : Path}, q.isAbsolute = dir.isAbsolute → q.inner = dir.inner ++ p.inner →
      q.steps = dir.steps ++ p.steps := by
    intro q habs hinner
    rw [steps_eq, steps_eq dir, habs, hinner, steps_of_relative h]
    split <;> rfl
  by_cases hempty : dir.text = ""
  · obtain ⟨text⟩ := dir
    subst hempty
    unfold join
    rw [if_neg (by simp [h]), if_pos (Or.inl rfl), String.empty_append]
    rfl
  · obtain ⟨habs, front, back, _, hback, hsegs, hsegs'⟩ := segments_join hempty h
    refine happend habs ?_
    rw [inner, inner, inner, hsegs, hsegs', List.filterMap_append, List.filterMap_append, hback,
      List.append_nil]

/-- An absolute path stands for itself inside a directory. -/
theorem join_of_absolute (dir : Path) (h : p.isAbsolute = true) : dir.join p = p := by
  unfold join
  rw [if_pos h]

/-! ## Texts of parts -/

theorem filter_ne_root {ps : List PathPart} (h : PathPart.root ∉ ps) :
    ps.filter (· ≠ .root) = ps :=
  List.filter_eq_self.2 fun _ hpart => decide_eq_true fun he => h (he ▸ hpart)

theorem inner_text {part : PathPart} (h : part = .root ∨ Inner part) :
    (Text.splitOn '/' part.text.toList).filterMap innerPart = [part].filter (· ≠ .root) := by
  rcases h with rfl | _ | ⟨hname⟩
  · decide +kernel
  · decide +kernel
  · rw [PathPart.text, Text.splitOn_of_not_mem hname.noSlash,
      List.filterMap_cons_some (innerPart_of_plain hname)]
    rfl

/-- **A text put together from parts has these parts**, except for the root, which only leaves
empty segments. -/
theorem inner_intercalate {ps : List PathPart} (h : ∀ part ∈ ps, part = .root ∨ Inner part) :
    inner ⟨"/".intercalate (ps.map PathPart.text)⟩ = ps.filter (· ≠ .root) := by
  induction ps with
  | nil => decide +kernel
  | cons part ps ih =>
    obtain ⟨hpart, hps⟩ := List.forall_mem_cons.1 h
    cases ps with
    | nil =>
      rw [List.map_cons, List.map_nil, String.intercalate_singleton]
      exact inner_text hpart
    | cons next ps =>
      have hlist : ("/".intercalate ((part :: next :: ps).map PathPart.text)).toList =
          part.text.toList ++ '/' ::
            ("/".intercalate ((next :: ps).map PathPart.text)).toList := by
        simp [String.intercalate_cons_cons]
      have hrest := ih hps
      rw [inner, segments] at hrest
      rw [inner, segments, hlist, Text.splitOn_append, List.filterMap_append, inner_text hpart,
        hrest, ← List.filter_append]
      rfl

end Path

end TypedRequests
