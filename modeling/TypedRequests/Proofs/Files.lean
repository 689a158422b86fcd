import TypedRequests.FileWriter

/-!
# Files in memory

What is read from files in memory after they are written and erased.

* `bind_eq` : one step after the other.
* `FileMap.find?_put`, `FileMap.find?_ensure`, `FileMap.find?_eraseUnder` : one operation.
* `FileMap.writeAll` : texts written one after the other.
* `FileMap.find?_writeAll_of_last`, `FileMap.find?_writeAll_of_absent` : a file has the last text
  written to it, and one that is not written stays as it is.
-/

set_option autoImplicit false

namespace TypedRequests

/-- What a step leaves is what the next one begins with. -/
theorem bind_eq {σ α β : Type} {step : StateM σ α} {next : α → StateM σ β} {a : α} {s s' : σ}
    (h : step s = (a, s')) : (step >>= next) s = next a s' := by
  show next (step s).1 (step s).2 = next a s'
  rw [h]

theorem Path.same_iff {p q : Path} : p.same q = true ↔ p.parts = q.parts := by
  simp [Path.same]

namespace FileMap

variable {m : FileMap} {p q : Path} {text : String} {ws : List (Path × String)}

/-! ## One operation -/

theorem findIn_putIn (p q : Path) (text : String) (es : List (Path × String)) :
    findIn q (putIn p text es) = if p.parts = q.parts then some text else findIn q es := by
  induction es with
  | nil => simp only [putIn, findIn, Path.same_iff]
  | cons e es ih =>
    obtain ⟨r, old⟩ := e
    simp only [putIn, findIn, Path.same_iff]
    by_cases hr : r.parts = p.parts
    · rw [if_pos hr, findIn]
      simp only [Path.same_iff, hr]
      split <;> rfl
    · rw [if_neg hr]
      split
      · simp only [findIn, Path.same_iff]
      · rw [findIn, ih]
        simp only [Path.same_iff]
        by_cases hq : r.parts = q.parts
        · rw [if_pos hq, if_neg (fun h => hr (hq.trans h.symm)), if_pos hq]
        · rw [if_neg hq, if_neg hq]

theorem find?_put (m : FileMap) (p q : Path) (text : String) :
    (m.put p text).find? q = if p.parts = q.parts then some text else m.find? q :=
  findIn_putIn p q text m.entries

theorem find?_ensure (m : FileMap) (p q : Path) (h : p.parts ≠ q.parts) :
    (m.ensure p).find? q = m.find? q := by
  unfold ensure
  split
  · rfl
  · rw [find?_put, if_neg h]

theorem findIn_filter (dir q : Path) (es : List (Path × String)) :
    findIn q (es.filter fun e => !e.1.startsWith dir) =
      if q.startsWith dir then none else findIn q es := by
  induction es with
  | nil => simp [findIn]
  | cons e es ih =>
    obtain ⟨r, text⟩ := e
    by_cases hq : r.parts = q.parts
    · have hr : r.startsWith dir = q.startsWith dir := by rw [Path.startsWith, Path.startsWith, hq]
      cases hd : q.startsWith dir with
      | true =>
        rw [List.filter_cons_of_neg (by simp [hr, hd]), ih, hd]
        rfl
      | false =>
        rw [List.filter_cons_of_pos (by simp [hr, hd])]
        simp [findIn, Path.same_iff, hq]
    · have hs : r.same q = false := Bool.eq_false_iff.2 (mt Path.same_iff.1 hq)
      cases hd : r.startsWith dir with
      | true =>
        rw [List.filter_cons_of_neg (by simp [hd]), ih]
        simp [findIn, hs]
      | false =>
        rw [List.filter_cons_of_pos (by simp [hd])]
        simp [findIn, hs, ih]

theorem find?_eraseUnder (m : FileMap) (dir q : Path) :
    (m.eraseUnder dir).find? q = if q.startsWith dir then none else m.find? q :=
  findIn_filter dir q m.entries

/-! ## Texts one after the other -/

/-- The files after a text is written. -/
def write (m : FileMap) (p : Path) (text : String) : FileMap :=
  (m.ensure p).put p text

/-- The files after texts are written, one after the other. -/
def writeAll (m : FileMap) (ws : List (Path × String)) : FileMap :=
  ws.foldl (fun m w => m.write w.1 w.2) m

theorem writeAll_cons (m : FileMap) (w : Path × String) (ws : List (Path × String)) :
    m.writeAll (w :: ws) = (m.write w.1 w.2).writeAll ws := rfl

theorem writeAll_append (m : FileMap) (ws ws' : List (Path × String)) :
    m.writeAll (ws ++ ws') = (m.writeAll ws).writeAll ws' :=
  List.foldl_append

theorem find?_write (m : FileMap) (p q : Path) (text : String) :
    (m.write p text).find? q = if p.parts = q.parts then some text else m.find? q := by
  rw [write, find?_put]
  split
  · rfl
  · rename_i h
    rw [find?_ensure m p q h]

/-- **A file that is not written stays as it is.** -/
theorem find?_writeAll_of_absent (h : ∀ w ∈ ws, w.1.parts ≠ q.parts) :
    (m.writeAll ws).find? q = m.find? q := by
  induction ws generalizing m with
  | nil => rfl
  | cons w ws ih =>
    obtain ⟨hw, hws⟩ := List.forall_mem_cons.1 h
    rw [writeAll_cons, ih hws, find?_write, if_neg hw]

/-- **A file has the last text that is written to it.** -/
theorem find?_writeAll_of_last {before after : List (Path × String)}
    (hws : ws = before ++ (p, text) :: after) (hp : p.parts = q.parts)
    (hafter : ∀ w ∈ after, w.1.parts ≠ q.parts) : (m.writeAll ws).find? q = some text := by
  rw [hws, List.append_cons, writeAll_append, find?_writeAll_of_absent hafter, writeAll_append,
    writeAll_cons, writeAll, List.foldl_nil, find?_write, if_pos hp]

/-- A file that is written is there. -/
theorem isSome_find?_writeAll (h : ∃ w ∈ ws, w.1.parts = q.parts) :
    ((m.writeAll ws).find? q).isSome = true := by
  induction ws generalizing m with
  | nil => simp at h
  | cons w ws ih =>
    rw [writeAll_cons]
    by_cases hws : ∃ w ∈ ws, w.1.parts = q.parts
    · exact ih hws
    · -- the first text is the last one that is written to the file
      obtain ⟨w', hw', hq⟩ := h
      rcases List.mem_cons.1 hw' with rfl | hw'
      · rw [find?_writeAll_of_absent (fun v hv he => hws ⟨v, hv, he⟩), find?_write, if_pos hq]
        rfl
      · exact absurd ⟨w', hw', hq⟩ hws

end FileMap

end TypedRequests
