import TypedRequests.PathTemplate

/-!
# Where paths are cut

A path is cut at its placeholders, from left to right: each begins at the first opening brace, and
ends at the first closing brace behind it.

* `PathTemplate.joined` : the text that was cut.
* `PathTemplate.Cuts` : nothing is lost, and no placeholder is left in the pieces.
* `PathTemplate.cuts_ofPath` : this is how paths are cut.
-/

set_option autoImplicit false

namespace TypedRequests.PathTemplate

variable {cs before name rest : List Char}

/-- The text of a segment: a literal text and the placeholder behind it. -/
def segmentChars (s : List Char × List Char) : List Char :=
  s.1 ++ '\x7b' :: (s.2 ++ ['\x7d'])

/-- The text that was cut. -/
def joined (t : PathTemplate) : List Char :=
  t.segments.flatMap segmentChars ++ t.last

/-- No placeholder is left in the text: no closing brace stands behind an opening one. -/
def NoPlaceholder (cs : List Char) : Prop :=
  ∀ before after, cs = before ++ '\x7b' :: after → '\x7d' ∉ after

theorem NoPlaceholder.tail {c : Char} (h : NoPlaceholder (c :: cs)) : NoPlaceholder cs := by
  rintro before after rfl
  exact h (c :: before) after rfl

/-- The text is cut at its placeholders: nothing is lost, literal texts before a placeholder have no
opening brace, names have no closing one, and no placeholder is left behind the last. -/
structure Cuts (cs : List Char) (t : PathTemplate) : Prop where
  joined : cs = t.joined
  texts : ∀ s ∈ t.segments, '\x7b' ∉ s.1
  names : ∀ s ∈ t.segments, '\x7d' ∉ s.2
  last : NoPlaceholder t.last

/-! ## The first placeholder -/

/-- What a scan up to a character leaves: nothing, or that character and what follows. -/
theorem scan_cases (stop : Char) (cs : List Char) :
    (cs.dropWhile (· ≠ stop) = [] ∧ stop ∉ cs) ∨
      ∃ rest, cs.dropWhile (· ≠ stop) = stop :: rest ∧
        cs = cs.takeWhile (· ≠ stop) ++ stop :: rest ∧ stop ∉ cs.takeWhile (· ≠ stop) := by
  have htake : stop ∉ cs.takeWhile (· ≠ stop) := fun h => by
    simpa using List.all_eq_true.1 List.all_takeWhile stop h
  have hcs := List.takeWhile_append_dropWhile (p := (· ≠ stop)) (l := cs)
  have hhead := List.head?_dropWhile_not (p := (· ≠ stop)) cs
  cases hdrop : cs.dropWhile (· ≠ stop) with
  | nil =>
    rw [hdrop, List.append_nil] at hcs
    exact Or.inl ⟨rfl, hcs ▸ htake⟩
  | cons c rest =>
    rw [hdrop] at hcs hhead
    obtain rfl : c = stop := by simpa using hhead
    exact Or.inr ⟨rest, rfl, hcs.symm, htake⟩

/-- What stands before and in the first placeholder. -/
theorem cutFirst_some (h : cutFirst cs = some (before, name, rest)) :
    cs = segmentChars (before, name) ++ rest ∧ '\x7b' ∉ before ∧ '\x7d' ∉ name := by
  unfold cutFirst at h
  rcases scan_cases '\x7b' cs with ⟨hdrop, _⟩ | ⟨inner, hdrop, hcs, hbefore⟩
  · rw [hdrop] at h
    cases h
  · rw [hdrop] at h
    rcases scan_cases '\x7d' inner with ⟨hdrop', _⟩ | ⟨tail, hdrop', hinner, hname⟩
    · simp only [hdrop'] at h
      cases h
    · simp only [hdrop'] at h
      obtain ⟨rfl, rfl, rfl⟩ : cs.takeWhile (· ≠ '\x7b') = before ∧
          inner.takeWhile (· ≠ '\x7d') = name ∧ tail = rest := by simpa using h
      refine ⟨?_, hbefore, hname⟩
      calc cs = cs.takeWhile (· ≠ '\x7b') ++ '\x7b' :: inner := hcs
        _ = cs.takeWhile (· ≠ '\x7b') ++
            '\x7b' :: (inner.takeWhile (· ≠ '\x7d') ++ '\x7d' :: tail) := by rw [← hinner]
        _ = _ := by simp [segmentChars]

/-- If there is no first placeholder, there is none. -/
theorem cutFirst_none (h : cutFirst cs = none) : NoPlaceholder cs := by
  rintro before after rfl hclose
  unfold cutFirst at h
  rcases scan_cases '\x7b' (before ++ '\x7b' :: after) with ⟨_, hnone⟩ | ⟨inner, hdrop, hcs, hfirst⟩
  · exact hnone (by simp)
  · rw [hdrop] at h
    -- the first opening brace does not stand behind the given one
    have hmem : '\x7d' ∈ inner := by
      rcases List.append_eq_append_iff.1 hcs with ⟨text, htext, hrest⟩ | ⟨text, _, hrest⟩
      · cases text with
        | nil => exact (List.cons.inj hrest).2 ▸ hclose
        | cons c text =>
          refine absurd ?_ hfirst
          rw [htext, (List.cons.inj hrest).1]
          simp
      · cases text with
        | nil => exact (List.cons.inj hrest).2 ▸ hclose
        | cons c text =>
          rw [(List.cons.inj hrest).2]
          exact List.mem_append_right _ (List.mem_cons_of_mem _ hclose)
    rcases scan_cases '\x7d' inner with ⟨_, hnone⟩ | ⟨tail, hdrop', _⟩
    · exact hnone hmem
    · simp only [hdrop'] at h
      cases h

/-! ## All placeholders -/

/-- **A text is cut at its placeholders.** -/
theorem cuts_ofChars (cs : List Char) : Cuts cs (ofChars cs) := by
  rw [ofChars_eq]
  cases h : cutFirst cs with
  | none => exact ⟨rfl, nofun, nofun, cutFirst_none h⟩
  | some first =>
    obtain ⟨before, name, rest⟩ := first
    obtain ⟨hcs, hbefore, hname⟩ := cutFirst_some h
    have hshorter : rest.length < cs.length := by
      rw [hcs]
      simp [segmentChars]
      omega
    have ih := cuts_ofChars rest
    refine ⟨?_, List.forall_mem_cons.2 ⟨hbefore, ih.texts⟩,
      List.forall_mem_cons.2 ⟨hname, ih.names⟩, ih.last⟩
    calc cs = segmentChars (before, name) ++ rest := hcs
      _ = segmentChars (before, name) ++ (ofChars rest).joined := by rw [← ih.joined]
      _ = _ := by simp [PathTemplate.joined]
termination_by cs.length

/-- **A path is cut at its placeholders.** -/
theorem cuts_ofPath (path : String) : Cuts path.toList (ofPath path) :=
  cuts_ofChars path.toList

end TypedRequests.PathTemplate
