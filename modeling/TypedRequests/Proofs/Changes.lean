import TypedRequests.Proofs.Files

/-!
# Changes of files in memory

A writer of files in memory makes a change or refuses it. Which changes it makes does not depend on
the files, and what they make of a file depends on its text alone.

* `FileMap.Change`, `FileMap.find?_applyAll` : changes of files, and what they make of one file.
* `FileMap.Repeatable` : the effects on one file that change nothing the second time.
* `FileMap.Change.WritesIn`, `FileMap.effectAll_of_put` : changes that write and do not erase, and
  that what they leave of a file that gets a text does not depend on the text before.
* `FileMap.Refusals`, `FileMap.refusing` : files in memory whose writer fails for some paths.
-/

set_option autoImplicit false

namespace TypedRequests

namespace FileMap

/-! ## Changes -/

/-- A change of files. -/
inductive Change where
  | erase (dir : Path)
  | ensure (p : Path)
  | put (p : Path) (text : String)

namespace Change

/-- The files after a change. -/
def apply (m : FileMap) : Change → FileMap
  | erase dir => m.eraseUnder dir
  | ensure p => m.ensure p
  | put p text => m.put p text

/-- The change is one of the given file. -/
def Touches (q : Path) : Change → Prop
  | erase dir => q.startsWith dir = true
  | ensure p | put p _ => p.parts = q.parts

/-- What a change makes of the text of a file. -/
def effect (q : Path) (text? : Option String) : Change → Option String
  | erase dir => if q.startsWith dir then none else text?
  | ensure p => if p.parts = q.parts then some (text?.getD "") else text?
  | put p text => if p.parts = q.parts then some text else text?

end Change

/-- The files after changes, one after the other. -/
def applyAll (m : FileMap) (cs : List Change) : FileMap :=
  cs.foldl Change.apply m

/-- What changes make of the text of a file, one after the other. -/
def effectAll (q : Path) (text? : Option String) (cs : List Change) : Option String :=
  cs.foldl (Change.effect q) text?

variable {m : FileMap} {p q : Path} {c : Change} {cs : List Change}

theorem applyAll_append (m : FileMap) (cs cs' : List Change) :
    m.applyAll (cs ++ cs') = (m.applyAll cs).applyAll cs' :=
  List.foldl_append

theorem effectAll_append (q : Path) (text? : Option String) (cs cs' : List Change) :
    effectAll q text? (cs ++ cs') = effectAll q (effectAll q text? cs) cs' :=
  List.foldl_append

theorem find?_congr (m : FileMap) (h : p.parts = q.parts) : m.find? p = m.find? q := by
  obtain ⟨es⟩ := m
  unfold find?
  induction es with
  | nil => rfl
  | cons e es ih =>
    have hsame : e.1.same p = e.1.same q := by rw [Path.same, Path.same, h]
    rw [findIn, findIn, hsame]
    exact congrArg (fun t => if e.1.same q then some e.2 else t) ih

theorem find?_ensure_of_parts_eq (m : FileMap) (h : p.parts = q.parts) :
    (m.ensure p).find? q = some ((m.find? q).getD "") := by
  unfold ensure
  split
  · rename_i text htext
    rw [← find?_congr m h, htext]
    rfl
  · rename_i hnone
    rw [find?_put, if_pos h, ← find?_congr m h, hnone]
    rfl

/-- A change makes of each file what its effect says. -/
theorem find?_apply (m : FileMap) (c : Change) (q : Path) :
    (c.apply m).find? q = c.effect q (m.find? q) := by
  cases c with
  | erase dir => exact find?_eraseUnder m dir q
  | ensure p =>
    simp only [Change.apply, Change.effect]
    split
    · rename_i h
      exact find?_ensure_of_parts_eq m h
    · rename_i h
      exact find?_ensure m p q h
  | put p text => exact find?_put m p q text

/-- **Changes make of each file what their effects say**, one after the other. -/
theorem find?_applyAll (m : FileMap) (cs : List Change) (q : Path) :
    (m.applyAll cs).find? q = effectAll q (m.find? q) cs := by
  induction cs generalizing m with
  | nil => rfl
  | cons c cs ih =>
    rw [applyAll, List.foldl_cons, ← applyAll, ih, find?_apply]
    rfl

theorem Change.effect_of_not_touches (h : ¬ c.Touches q) (text? : Option String) :
    c.effect q text? = text? := by
  cases c <;> exact if_neg h

/-- A file that no change touches stays as it is. -/
theorem effectAll_of_not_touches (h : ∀ c ∈ cs, ¬ c.Touches q) (text? : Option String) :
    effectAll q text? cs = text? := by
  induction cs with
  | nil => rfl
  | cons c cs ih =>
    obtain ⟨hc, hcs⟩ := List.forall_mem_cons.1 h
    rw [effectAll, List.foldl_cons, Change.effect_of_not_touches hc]
    exact ih hcs

/-! ## Changes that write -/

/-- The change writes a file in `place`. -/
def Change.WritesIn (place : Path → Prop) : Change → Prop
  | erase _ => False
  | ensure p | put p _ => place p

variable {place : Path → Prop} {text : String}

theorem Change.WritesIn.mono {place' : Path → Prop} (h : c.WritesIn place)
    (hplace : ∀ p, place p → place' p) : c.WritesIn place' := by
  cases c with
  | erase dir => exact h
  | ensure p => exact hplace p h
  | put p text => exact hplace p h

/-- A file that is touched has the place of one that is written. -/
theorem Change.WritesIn.exists_of_touches (h : c.WritesIn place) (ht : c.Touches q) :
    ∃ p, place p ∧ p.parts = q.parts := by
  cases c with
  | erase dir => exact h.elim
  | ensure p => exact ⟨p, h, ht⟩
  | put p text => exact ⟨p, h, ht⟩

theorem Change.WritesIn.effect_some (h : c.WritesIn place) (q : Path) (text : String) :
    ∃ text', c.effect q (some text) = some text' := by
  by_cases ht : c.Touches q
  · cases c with
    | erase dir => exact h.elim
    | ensure p => exact ⟨text, if_pos ht⟩
    | put p text' => exact ⟨text', if_pos ht⟩
  · exact ⟨text, Change.effect_of_not_touches ht _⟩

/-- A file stays there while others are written. -/
theorem effectAll_some (h : ∀ c ∈ cs, c.WritesIn place) (q : Path) (text : String) :
    ∃ text', effectAll q (some text) cs = some text' := by
  induction cs generalizing text with
  | nil => exact ⟨text, rfl⟩
  | cons c cs ih =>
    obtain ⟨hc, hcs⟩ := List.forall_mem_cons.1 h
    obtain ⟨text', htext'⟩ := hc.effect_some q text
    rw [effectAll, List.foldl_cons, htext']
    exact ih hcs text'

/-- **What is left of a file that gets a text does not depend on the text before.** -/
theorem effectAll_of_put (h : ∀ c ∈ cs, c.WritesIn place) (hput : .put p text ∈ cs)
    (hp : p.parts = q.parts) : ∃ text', ∀ text?, effectAll q text? cs = some text' := by
  induction cs with
  | nil => cases hput
  | cons c cs ih =>
    obtain ⟨-, hcs⟩ := List.forall_mem_cons.1 h
    rcases List.mem_cons.1 hput with rfl | hput
    · obtain ⟨text', htext'⟩ := effectAll_some hcs q text
      refine ⟨text', fun text? => ?_⟩
      rw [effectAll, List.foldl_cons, Change.effect, if_pos hp]
      exact htext'
    · obtain ⟨text', htext'⟩ := ih hcs hput
      exact ⟨text', fun text? => htext' _⟩

/-! ## Repeated changes -/

/-- An effect on the text of a file that changes nothing the second time: none at all, that of
making sure that there is a file, or one with a fixed result. -/
inductive Repeatable (f : Option String → Option String) : Prop where
  | keeps (h : ∀ text?, f text? = text?)
  | ensures (h : ∀ text?, f text? = some (text?.getD ""))
  | fixes {result : Option String} (h : ∀ text?, f text? = result)

theorem Repeatable.again {f : Option String → Option String} (hf : Repeatable f)
    (text? : Option String) : f (f text?) = f text? := by
  cases hf with
  | keeps h => rw [h, h]
  | ensures h => rw [h, h, Option.getD_some]
  | fixes h => rw [h, h]

theorem Repeatable.comp {f g : Option String → Option String} (hg : Repeatable g)
    (hf : Repeatable f) : Repeatable (g ∘ f) := by
  cases hg with
  | keeps hg =>
    rwa [show g ∘ f = f from funext fun text? => hg (f text?)]
  | ensures hg =>
    cases hf with
    | keeps hf => exact .ensures fun text? => by rw [Function.comp, hf, hg]
    | ensures hf => exact .ensures fun text? => by rw [Function.comp, hf, hg, Option.getD_some]
    | fixes hf => exact .fixes fun text? => by rw [Function.comp, hf, hg]
  | fixes hg => exact .fixes fun text? => hg (f text?)

theorem Change.repeatable_effect (c : Change) (q : Path) :
    Repeatable fun text? => c.effect q text? := by
  by_cases h : c.Touches q
  · cases c with
    | erase dir => exact .fixes fun _ => if_pos h
    | ensure p => exact .ensures fun _ => if_pos h
    | put p text => exact .fixes fun _ => if_pos h
  · exact .keeps (Change.effect_of_not_touches h)

/-- **Changes that are made again change nothing.** -/
theorem repeatable_effectAll (cs : List Change) (q : Path) :
    Repeatable fun text? => effectAll q text? cs := by
  induction cs with
  | nil => exact .keeps fun _ => rfl
  | cons c cs ih => exact ih.comp (c.repeatable_effect q)

theorem find?_applyAll_applyAll (m : FileMap) (cs : List Change) (q : Path) :
    ((m.applyAll cs).applyAll cs).find? q = (m.applyAll cs).find? q := by
  rw [find?_applyAll, find?_applyAll]
  exact (repeatable_effectAll cs q).again _

/-! ## Writers that fail for some paths -/

/-- Which operations of a writer fail, by their paths, and why. -/
structure Refusals where
  ensureFile : Path → Option FileError
  writeFile : Path → Option FileError
  emptyDir : Path → Option FileError

/-- An operation that fails for a reason, or makes a change. -/
def attempt (reason : Option FileError) (c : Change) :
    StateM FileMap (Except FileError Unit) := fun m =>
  match reason with
  | some e => (.error e, m)
  | none => (.ok (), c.apply m)

/-- The writer of files in memory, with the given refusals. -/
def refusing (r : Refusals) : FileWriter (StateM FileMap) where
  ensureFile p := attempt (r.ensureFile p) (.ensure p)
  writeFile p text := attempt (r.writeFile p) (.put p text)
  emptyDir p := attempt (r.emptyDir p) (.erase p)

/-- All operations fail on the given paths, and none on others. -/
def Refusals.onPaths (failing : List Path) : Refusals :=
  let refuse := fun p : Path => if failing.any p.same then some .readOnly else none
  ⟨refuse, refuse, refuse⟩

theorem guarded_eq (failing : List Path) (p : Path) (c : Change) :
    guarded failing p (fun m => c.apply m) =
      attempt (if failing.any p.same then some .readOnly else none) c := by
  funext m
  unfold guarded attempt
  cases failing.any p.same <;> rfl

/-- The writer that fails on a list of paths is one with refusals. -/
theorem writer_eq_refusing (failing : List Path) :
    writer failing = refusing (.onPaths failing) := by
  unfold writer refusing Refusals.onPaths
  simp only [← guarded_eq]
  rfl

/-- What holds of all writers with refusals holds of those that fail on lists of paths. -/
theorem of_refusing {P : FileWriter (StateM FileMap) → Prop} (h : ∀ r, P (refusing r))
    (failing : List Path) : P (writer failing) := by
  rw [writer_eq_refusing]
  exact h _

end FileMap

end TypedRequests
