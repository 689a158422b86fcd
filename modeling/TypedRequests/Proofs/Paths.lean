import TypedRequests.Path

/-!
# Parts of joined paths

* `Text.splitOn_append`, `Text.splitOn_of_not_mem`, `Text.splitOn_eq` : splitting at separators.
* `PlainName` : a name that is a single part of a path.
* `Path.segments_join`, `Path.parts_join` : a path in a directory has the parts of the directory,
  and its own behind them.
* `Parting`, `exists_parting` : the common beginning of two lists of parts, and what follows.
-/

set_option autoImplicit false

namespace TypedRequests

namespace Text

variable {separator : Char}

theorem splitOn_of_not_mem {cs : List Char} (h : separator ∉ cs) : splitOn separator cs = [cs] := by
  induction cs with
  | nil => rfl
  | cons c cs ih =>
    rw [List.mem_cons, not_or] at h
    rw [splitOn, if_neg (Ne.symm h.1), ih h.2]

/-- A separator splits what stands before it from what follows. -/
theorem splitOn_append (cs ds : List Char) :
    splitOn separator (cs ++ separator :: ds) = splitOn separator cs ++ splitOn separator ds := by
  induction cs with
  | nil => simp [splitOn]
  | cons c cs ih =>
    rw [List.cons_append, splitOn, splitOn]
    by_cases h : c = separator
    · rw [if_pos h, if_pos h, ih]
      rfl
    · rw [if_neg h, if_neg h, ih]
      cases hs : splitOn separator cs with
      | nil => exact absurd hs (splitOn_ne_nil separator cs)
      | cons p ps => rfl

/-- The pieces are those of the standard library. -/
theorem splitOn_eq (cs : List Char) : splitOn separator cs = cs.splitOn separator := by
  induction cs with
  | nil => simp [splitOn, List.splitOn_eq_splitOnP, List.splitOnP_nil]
  | cons c cs ih =>
    rw [List.splitOn_eq_splitOnP, List.splitOnP_cons_eq_if_modifyHead, ← List.splitOn_eq_splitOnP,
      ← ih, splitOn]
    by_cases h : c = separator
    · simp [h]
    · cases hs : splitOn separator cs with
      | nil => exact absurd hs (splitOn_ne_nil separator cs)
      | cons piece pieces => simp [h]

end Text

/-- The name is a single part of a path: without slash, not empty, and no point or two. -/
structure PlainName (name : String) : Prop where
  noSlash : '/' ∉ name.toList
  nonempty : name ≠ ""
  notHere : name ≠ "."
  notUp : name ≠ ".."

namespace Path

theorem innerPart_of_plain {name : String} (h : PlainName name) :
    innerPart name.toList = some (.name name) := by
  have hof : ∀ cs, name.toList = cs → name = String.ofList cs := fun cs hcs => by
    rw [← hcs, String.ofList_toList]
  unfold innerPart
  rw [if_neg, if_neg, String.ofList_toList]
  · exact fun hup => h.notUp (hof _ hup)
  · rintro (hempty | hhere)
    · exact h.nonempty (hof _ hempty)
    · exact h.notHere (hof _ hhere)

theorem segments_of_plain {name : String} (h : PlainName name) :
    segments ⟨name⟩ = [name.toList] :=
  Text.splitOn_of_not_mem h.noSlash

theorem not_isAbsolute_of_plain {name : String} (h : PlainName name) :
    isAbsolute ⟨name⟩ = false := by
  unfold isAbsolute
  cases hn : name.toList with
  | nil => rfl
  | cons c cs =>
    have hc : c ≠ '/' := fun e => h.noSlash (by rw [hn, e]; exact List.mem_cons_self ..)
    simpa using hc

/-- A path that begins like another and has one more part at its end. -/
theorem parts_eq_append {p q : Path} {part : PathPart} (habs : p.isAbsolute = q.isAbsolute)
    (hhead : p.segments.head? = q.segments.head?)
    (hinner : p.segments.filterMap innerPart = q.segments.filterMap innerPart ++ [part]) :
    p.parts = q.parts ++ [part] := by
  simp only [parts, habs, hhead, hinner]
  split
  · rfl
  · split <;> rfl

/-- The segments of a path inside a directory are those of the directory and its own; an empty one
behind a slash at the end of the directory is replaced. -/
theorem segments_join {dir p : Path} (hdir : dir.text ≠ "") (h : p.isAbsolute = false) :
    (dir.join p).isAbsolute = dir.isAbsolute ∧
      ∃ front back, front ≠ [] ∧ back.filterMap innerPart = [] ∧
        dir.segments = front ++ back ∧ (dir.join p).segments = front ++ p.segments := by
  unfold join
  rw [if_neg (by simp [h])]
  by_cases hslash : dir.endsInSlash = true
  · rw [if_pos (Or.inr hslash)]
    obtain ⟨front, hfront⟩ : ∃ front, dir.text.toList = front ++ ['/'] := by
      unfold endsInSlash at hslash
      exact List.getLast?_eq_some_iff.1 (eq_of_beq hslash)
    refine ⟨?_, Text.splitOn '/' front, [[]], Text.splitOn_ne_nil _ _, rfl, ?_, ?_⟩
    · simp only [isAbsolute, String.toList_append, hfront]
      cases front <;> rfl
    · rw [segments, hfront, Text.splitOn_append]
      rfl
    · rw [segments, String.toList_append, hfront, List.append_assoc, List.singleton_append,
        Text.splitOn_append]
      rfl
  · rw [if_neg (by simp [hdir, hslash])]
    have hlist : (dir.text ++ "/" ++ p.text).toList = dir.text.toList ++ '/' :: p.text.toList := by
      simp
    refine ⟨?_, dir.segments, [], Text.splitOn_ne_nil _ _, rfl, (List.append_nil _).symm, ?_⟩
    · simp only [isAbsolute, hlist]
      cases hd : dir.text.toList with
      | nil => exact absurd (String.toList_eq_nil_iff.1 hd) hdir
      | cons c cs => rfl
    · rw [segments, hlist, Text.splitOn_append]
      rfl

/-- **A plain name in a directory is one part more.** -/
theorem parts_join (dir : Path) {name : String} (h : PlainName name) :
    (dir.join ⟨name⟩).parts = dir.parts ++ [.name name] := by
  have hname : innerPart name.toList = some (.name name) := innerPart_of_plain h
  by_cases hempty : dir.text = ""
  · -- in the empty path the name stands alone
    obtain ⟨text⟩ := dir
    subst hempty
    have hhere : name.toList ≠ ['.'] := fun hn =>
      h.notHere (by rw [← String.ofList_toList (s := name), hn])
    have hhead : (segments ⟨name⟩).head? ≠ some ['.'] := by
      rw [segments_of_plain h]
      exact fun he => hhere (Option.some.inj he)
    have hempty : parts ⟨""⟩ = [] := by decide +kernel
    unfold join
    rw [if_neg (by simp [not_isAbsolute_of_plain h]), if_pos (Or.inl rfl), String.empty_append,
      hempty, parts, not_isAbsolute_of_plain h, if_neg (by simp), if_neg hhead, segments_of_plain h,
      List.filterMap_cons_some hname]
    rfl
  · obtain ⟨habs, front, back, hfront, hback, hsegs, hsegs'⟩ :=
      segments_join hempty (not_isAbsolute_of_plain h)
    rw [segments_of_plain h] at hsegs'
    apply parts_eq_append habs
    · obtain ⟨first, front, rfl⟩ := List.exists_cons_of_ne_nil hfront
      rw [hsegs, hsegs']
      rfl
    · rw [hsegs, hsegs', List.filterMap_append, List.filterMap_append, hback,
        List.filterMap_cons_some hname, List.append_nil]
      rfl

end Path

/-! ## Common beginnings -/

/-- The two lists begin alike, and part there. -/
structure Parting (as bs common up down : List PathPart) : Prop where
  left : as = common ++ up
  right : bs = common ++ down
  apart : ∀ a ∈ up.head?, ∀ b ∈ down.head?, a ≠ b

namespace Parting

variable {as bs common up down : List PathPart}

theorem append_left (h : Parting as bs common up down) (ps : List PathPart) :
    Parting (ps ++ as) (ps ++ bs) (ps ++ common) up down :=
  ⟨by rw [h.left, List.append_assoc], by rw [h.right, List.append_assoc], h.apart⟩

/-- The common beginning is dropped. -/
theorem dropCommon_eq (h : Parting as bs common up down) :
    Path.dropCommon as bs = (up, down) := by
  obtain ⟨rfl, rfl, hapart⟩ := h
  induction common with
  | nil =>
    cases up with
    | nil => cases down <;> rfl
    | cons a up =>
      cases down with
      | nil => rfl
      | cons b down => exact if_neg (hapart a rfl b rfl)
  | cons p common ih => exact (if_pos rfl).trans ih

theorem unique {common' up' down' : List PathPart} (h : Parting as bs common up down)
    (h' : Parting as bs common' up' down') : up = up' ∧ down = down' :=
  Prod.mk.inj (h.dropCommon_eq.symm.trans h'.dropCommon_eq)

end Parting

theorem exists_parting (as bs : List PathPart) :
    ∃ common up down, Parting as bs common up down := by
  induction as generalizing bs with
  | nil => exact ⟨[], [], bs, rfl, rfl, nofun⟩
  | cons a as ih =>
    cases bs with
    | nil => exact ⟨[], a :: as, [], rfl, rfl, nofun⟩
    | cons b bs =>
      by_cases h : a = b
      · subst h
        obtain ⟨common, up, down, hparting⟩ := ih bs
        exact ⟨a :: common, up, down, hparting.append_left [a]⟩
      · refine ⟨[], a :: as, b :: bs, rfl, rfl, fun x hx y hy => ?_⟩
        obtain rfl := Option.some.inj hx
        obtain rfl := Option.some.inj hy
        exact h

end TypedRequests
