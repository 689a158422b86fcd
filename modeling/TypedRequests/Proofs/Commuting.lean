import Mathlib.Data.Prod.Lex
import Mathlib.Data.String.Basic
import TypedRequests.Proofs.Changes

/-!
# Changes of different files commute

Files in memory are kept in the order of their paths. As this is a linear order, it makes no
difference which of two different files is written first.

* `Path.sortKey`, `Path.before_iff` : the order of paths is that of their keys.
* `FileMap.put_comm` : two texts for different files.
* `FileMap.applyAll_comm` : changes that write in different places.
-/

set_option autoImplicit false

namespace TypedRequests

/-! ## The order of paths -/

/-- The key of a part: its kind, then its text. -/
def PathPart.sortKey (a : PathPart) : Nat ×ₗ String :=
  toLex (a.rank, a.text)

theorem PathPart.sortKey_injective : Function.Injective PathPart.sortKey := by
  intro a b h
  cases a <;> cases b <;> simp_all [sortKey, rank, text]

theorem PathPart.before_iff {a b : PathPart} : a.before b = true ↔ a.sortKey < b.sortKey := by
  rw [sortKey, sortKey, Prod.Lex.toLex_lt_toLex]
  cases a <;> cases b <;> simp [before, rank, text, -String.lt_iff_ltb]

theorem PathPart.listBefore_iff {as bs : List PathPart} :
    listBefore as bs = true ↔ as.map sortKey < bs.map sortKey := by
  induction as generalizing bs with
  | nil => cases bs <;> simp [listBefore]
  | cons a as ih =>
    cases bs with
    | nil => simp [listBefore]
    | cons b bs =>
      rw [listBefore, List.map_cons, List.map_cons, List.cons_lt_cons_iff]
      by_cases h : a = b
      · subst h
        simp [ih]
      · rw [if_neg h, before_iff]
        simp [sortKey_injective.eq_iff, h]

namespace Path

/-- The key of a path: the keys of its parts. -/
def sortKey (p : Path) : List (Nat ×ₗ String) :=
  p.parts.map PathPart.sortKey

variable {p q : Path}

theorem sortKey_eq_iff : p.sortKey = q.sortKey ↔ p.parts = q.parts :=
  (List.map_injective_iff.2 PathPart.sortKey_injective).eq_iff

/-- **The order of paths is that of their keys**, and so linear. -/
theorem before_iff : p.before q = true ↔ p.sortKey < q.sortKey :=
  PathPart.listBefore_iff

end Path

namespace FileMap

variable {p q r : Path}

/-! ## Texts for different files -/

theorem putIn_cons_of_same (h : r.parts = p.parts) (text old : String)
    (es : List (Path × String)) : putIn p text ((r, old) :: es) = (r, text) :: es :=
  if_pos (Path.same_iff.2 h)

theorem putIn_cons_of_before (h : p.sortKey < r.sortKey) (text old : String)
    (es : List (Path × String)) :
    putIn p text ((r, old) :: es) = (p, text) :: (r, old) :: es := by
  have hne : ¬ r.same p = true := fun hs => h.ne' (Path.sortKey_eq_iff.2 (Path.same_iff.1 hs))
  rw [putIn, if_neg hne, if_pos (Path.before_iff.2 h)]

theorem putIn_cons_of_after (h : r.sortKey < p.sortKey) (text old : String)
    (es : List (Path × String)) :
    putIn p text ((r, old) :: es) = (r, old) :: putIn p text es := by
  have hne : ¬ r.same p = true := fun hs => h.ne (Path.sortKey_eq_iff.2 (Path.same_iff.1 hs))
  rw [putIn, if_neg hne, if_neg (mt Path.before_iff.1 h.asymm)]

theorem putIn_comm_of_lt (h : p.sortKey < q.sortKey) (text text' : String)
    (es : List (Path × String)) :
    putIn p text (putIn q text' es) = putIn q text' (putIn p text es) := by
  induction es with
  | nil =>
    rw [putIn, putIn, putIn_cons_of_before h, putIn_cons_of_after h]
    rfl
  | cons e es ih =>
    obtain ⟨r, old⟩ := e
    rcases lt_trichotomy p.sortKey r.sortKey with hp | hp | hp
    · -- the first file comes before the entry, whether or not the second one is put in between
      rw [putIn_cons_of_before hp, putIn_cons_of_after h]
      rcases lt_trichotomy q.sortKey r.sortKey with hq | hq | hq
      · rw [putIn_cons_of_before hq, putIn_cons_of_before h]
      · rw [putIn_cons_of_same (Path.sortKey_eq_iff.1 hq.symm), putIn_cons_of_before hp]
      · rw [putIn_cons_of_after hq, putIn_cons_of_before hp]
    · have hr : r.parts = p.parts := Path.sortKey_eq_iff.1 hp.symm
      rw [putIn_cons_of_after (hp ▸ h), putIn_cons_of_same hr, putIn_cons_of_same hr,
        putIn_cons_of_after (hp ▸ h)]
    · have hq : r.sortKey < q.sortKey := hp.trans h
      rw [putIn_cons_of_after hq, putIn_cons_of_after hp, putIn_cons_of_after hp,
        putIn_cons_of_after hq, ih]

/-- **It makes no difference which of two different files gets its text first.** -/
theorem put_comm (m : FileMap) (h : p.parts ≠ q.parts) (text text' : String) :
    (m.put p text).put q text' = (m.put q text').put p text := by
  obtain ⟨es⟩ := m
  refine congrArg FileMap.mk ?_
  rcases lt_or_gt_of_ne (mt Path.sortKey_eq_iff.1 h) with hlt | hlt
  · exact (putIn_comm_of_lt hlt text text' es).symm
  · exact putIn_comm_of_lt hlt text' text es

theorem ensure_put_comm (m : FileMap) (h : p.parts ≠ q.parts) (text : String) :
    (m.put q text).ensure p = (m.ensure p).put q text := by
  unfold ensure
  rw [find?_put, if_neg h.symm]
  cases m.find? p with
  | some _ => rfl
  | none => exact (put_comm m h "" text).symm

theorem ensure_comm (m : FileMap) (h : p.parts ≠ q.parts) :
    (m.ensure p).ensure q = (m.ensure q).ensure p := by
  cases hq : m.find? q with
  | some _ =>
    have hq' : (m.ensure p).find? q = m.find? q := find?_ensure m p q h
    rw [ensure, hq', hq, show m.ensure q = m by rw [ensure, hq]]
  | none =>
    have hq' : (m.ensure p).find? q = m.find? q := find?_ensure m p q h
    rw [ensure, hq', hq, show m.ensure q = m.put q "" by rw [ensure, hq], ensure_put_comm m h]

/-! ## Changes in different places -/

variable {place place' : Path → Prop} {c c' : Change} {cs cs' : List Change}

/-- No file has a place in both. -/
def Apart (place place' : Path → Prop) : Prop :=
  ∀ p q, place p → place' q → p.parts ≠ q.parts

theorem apply_comm (hapart : Apart place place') (h : c.WritesIn place) (h' : c'.WritesIn place')
    (m : FileMap) : c'.apply (c.apply m) = c.apply (c'.apply m) := by
  cases c with
  | erase dir => exact h.elim
  | ensure p =>
    cases c' with
    | erase dir => exact h'.elim
    | ensure q => exact ensure_comm m (hapart p q h h')
    | put q text => exact (ensure_put_comm m (hapart p q h h') text).symm
  | put p text =>
    cases c' with
    | erase dir => exact h'.elim
    | ensure q => exact ensure_put_comm m (hapart p q h h').symm text
    | put q text' => exact put_comm m (hapart p q h h') text text'

theorem apply_applyAll_comm (hapart : Apart place place') (h : c.WritesIn place)
    (h' : ∀ c' ∈ cs', c'.WritesIn place') (m : FileMap) :
    (c.apply m).applyAll cs' = c.apply (m.applyAll cs') := by
  induction cs' generalizing m with
  | nil => rfl
  | cons c' cs' ih =>
    obtain ⟨hc', hcs'⟩ := List.forall_mem_cons.1 h'
    rw [applyAll, List.foldl_cons, apply_comm hapart h hc' m]
    exact ih hcs' (c'.apply m)

/-- **Changes that write in different places commute.** -/
theorem applyAll_comm (hapart : Apart place place') (h : ∀ c ∈ cs, c.WritesIn place)
    (h' : ∀ c' ∈ cs', c'.WritesIn place') (m : FileMap) :
    (m.applyAll cs).applyAll cs' = (m.applyAll cs').applyAll cs := by
  induction cs generalizing m with
  | nil => rfl
  | cons c cs ih =>
    obtain ⟨hc, hcs⟩ := List.forall_mem_cons.1 h
    calc ((m.applyAll (c :: cs)).applyAll cs')
        = ((c.apply m).applyAll cs').applyAll cs := ih hcs (c.apply m)
      _ = (c.apply (m.applyAll cs')).applyAll cs := by rw [apply_applyAll_comm hapart hc h']

end FileMap

end TypedRequests
