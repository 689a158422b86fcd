import TypedRequests.Proofs.Replacing

/-!
# Entries of parameter lists

An entry of a parameter list can hold any value: a document with another value in its place is read
as before, but for this entry.

* `Document.withEntry` : a document with another entry in one place of a parameter list.
* `EntryPlace.Leads` : how the data of a document leads to this place.
* `Operation.read_replaced`, `PathItem.read_replaced`, `Document.read_replaced` : operations, path
  items and documents are read as before, but for the entry replaced.
-/

set_option autoImplicit false

namespace TypedRequests

/-! ## Documents with another entry -/

namespace OrderedMap

variable {κ α : Type} [DecidableEq κ]

/-- The map with another value for a key, made from the old one. -/
def adjust (m : OrderedMap κ α) (key : κ) (f : α → α) : OrderedMap κ α :=
  ⟨m.entries.map fun e => if e.1 = key then (e.1, f e.2) else e, by
    have hkeys : Entries.keys (m.entries.map fun e => if e.1 = key then (e.1, f e.2) else e) =
        Entries.keys m.entries := by
      simp only [Entries.keys, List.map_map]
      exact List.map_congr_left fun e _ => by simp only [Function.comp_apply]; split <;> rfl
    rw [hkeys]
    exact m.distinct⟩

omit [DecidableEq κ] in
theorem ext_entries {m m' : OrderedMap κ α} (h : m.entries = m'.entries) : m = m' := by
  cases m
  cases m'
  cases h
  rfl

/-- In entries with distinct keys there is one value to adjust. -/
theorem adjust_of_entries {m : OrderedMap κ α} {key : κ} {a : α} {before after : List (κ × α)}
    (h : m.entries = before ++ (key, a) :: after) (f : α → α) :
    (m.adjust key f).entries = before ++ (key, f a) :: after := by
  have hdistinct := m.distinct
  rw [h, Entries.keys, List.map_append, List.map_cons, List.nodup_append, List.nodup_cons]
    at hdistinct
  obtain ⟨-, ⟨hafter, -⟩, hbefore⟩ := hdistinct
  have hothers : ∀ es : List (κ × α), key ∉ es.map Prod.fst →
      es.map (fun e => if e.1 = key then (e.1, f e.2) else e) = es := by
    intro es hes
    refine (List.map_congr_left fun e he => ?_).trans (List.map_id es)
    exact if_neg fun hkey : e.1 = key => hes (hkey ▸ List.mem_map_of_mem he)
  have hbefore : key ∉ before.map Prod.fst := fun hmem =>
    hbefore key hmem key (List.mem_cons_self ..) rfl
  change m.entries.map _ = _
  rw [h, List.map_append, List.map_cons, if_pos rfl, hothers before hbefore, hothers after hafter]

/-- The value that was put is adjusted. -/
theorem adjust_put_self (m : OrderedMap κ α) (key : κ) (a : α) (f : α → α) :
    (m.put key a).adjust key f = m.put key (f a) := by
  obtain ⟨before, after, h, h'⟩ := Entries.put_replaced key a (f a) m.entries
  exact ext_entries ((adjust_of_entries h f).trans h'.symm)

theorem map_entries_put {key j : κ} (hj : j ≠ key) (b : α) (f : α → α) (es : List (κ × α)) :
    Entries.put j b (es.map fun e => if e.1 = key then (e.1, f e.2) else e) =
      (Entries.put j b es).map fun e => if e.1 = key then (e.1, f e.2) else e := by
  induction es with
  | nil => simp [Entries.put, hj]
  | cons e es ih =>
    obtain ⟨k, c⟩ := e
    by_cases hk : k = j
    · subst hk
      simp [Entries.put, hj]
    · by_cases hkey : k = key
      · simp [Entries.put, hkey, Ne.symm hj, ih]
      · simp [Entries.put, hkey, hk, ih]

/-- What is put under another key stays out of it. -/
theorem adjust_put {key j : κ} (hj : j ≠ key) (m : OrderedMap κ α) (b : α) (f : α → α) :
    (m.adjust key f).put j b = (m.put j b).adjust key f :=
  ext_entries (map_entries_put hj b f m.entries)

/-- Another value for a key is adjusted, or superseded. -/
theorem ofPairs_adjust (key : κ) (a : α) (f : α → α) (before after : List (κ × α)) :
    ofPairs (before ++ (key, f a) :: after) = ofPairs (before ++ (key, a) :: after) ∨
      ofPairs (before ++ (key, f a) :: after) =
        (ofPairs (before ++ (key, a) :: after)).adjust key f := by
  rcases Entries.ofPairs_replaced key a (f a) before after with h | ⟨before', after', h, h'⟩
  · exact .inl (ext_entries h.symm)
  · exact .inr (ext_entries (h'.trans (adjust_of_entries h f).symm))

end OrderedMap

namespace OpenApi

/-- The operation with another entry in its parameter list. -/
def Operation.withEntry (o : Operation) (i : Nat) (entry : ParameterEntry) : Operation :=
  { o with parameters := o.parameters.set i entry }

/-- The path item with another entry in the list of an operation, or in the shared list. -/
def PathItem.withEntry (item : PathItem) (i : Nat) (entry : ParameterEntry) :
    Option Method → PathItem
  | none => { item with parameters := item.parameters.set i entry }
  | some m => { item with operations := item.operations.adjust m fun o => o.withEntry i entry }

/-- A place in a parameter list of a document. -/
structure EntryPlace where
  path : String
  /-- The operation, unless the list is the one that all operations of the path share. -/
  method : Option Method
  index : Nat
deriving DecidableEq, Repr

/-- The document with another entry in one place. -/
def Document.withEntry (d : Document) (place : EntryPlace) (entry : ParameterEntry) : Document :=
  { d with paths := d.paths.adjust place.path fun item =>
      item.withEntry place.index entry place.method }

/-- The key in a path item under which a parameter list lies, with the steps behind it: the shared
list, or that of an operation. -/
inductive PathItem.Leads : Option Method → String → List NodeStep → Prop where
  | shared : Leads none parametersKey []
  | own {m : Method} {s : NodeStep} (hs : Operation.form.StepsTo "parameters" s) :
      Leads (some m) m.name [s]

/-- The steps lead to a place in a parameter list of the data of a document. -/
inductive EntryPlace.Leads : EntryPlace → List NodeStep → Prop where
  | intro {path key : String} {method : Option Method} {i : Nat} {s : NodeStep}
      {steps : List NodeStep} (hs : Document.form.StepsTo "paths" s)
      (h : PathItem.Leads method key steps) :
      Leads ⟨path, method, i⟩ (s :: .key path :: .key key :: (steps ++ [.index i]))

/-! ## Reading -/

variable {e n n' : Node} {entry : ParameterEntry} {i : Nat}

theorem exists_readParameterEntry {n : Node} (h : n.toJson?.isSome = true) :
    ∃ entry, readParameterEntry n = .ok entry := by
  obtain ⟨v, hv⟩ := Option.isSome_iff_exists.1 h
  unfold readParameterEntry
  rw [hv]
  cases readReference n with
  | ok target => exact ⟨_, rfl⟩
  | error _ =>
    cases Parameter.read n with
    | ok p => exact ⟨_, rfl⟩
    | error _ => exact ⟨_, rfl⟩

namespace Operation

theorem commutes (i : Nat) (entry : ParameterEntry) :
    CommutesBesides setField (·.withEntry i entry) "parameters" := by
  intro name n a b hname h
  unfold setField at h ⊢
  split at h
  case h_4 => exact absurd rfl hname
  case h_7 =>
    cases h
    rfl
  all_goals
    obtain ⟨v, hv, rfl⟩ := map_eq_ok.1 h
    exact map_eq_ok.2 ⟨v, hv, rfl⟩

/-- **An operation with another entry in its parameter list is read as before**, but for the
entry. -/
theorem read_replaced (he : readParameterEntry e = .ok entry) {s : NodeStep}
    (hs : form.StepsTo "parameters" s) (h : Node.Replaced e [s, .index i] n n') {o : Operation}
    (ho : read n = .ok o) : read n' = .ok o ∨ read n' = .ok (o.withEntry i entry) := by
  refine readRecord_replaced (commutes i entry) (by decide) hs (by decide) ?_ h ho
  intro m m' hm a b hb
  obtain ⟨ps, hps, rfl⟩ := map_eq_ok.1 hb
  exact .inr (map_eq_ok.2 ⟨_, readList_replaced he hm hps, rfl⟩)

end Operation

namespace PathItem

/-- A member with another value, after which the path item is the same or another. -/
theorem addMembers_replaced {f : PathItem → PathItem} {key : String} {v v' : Json}
    (hf : ∀ item item' key' u, key' ≠ key → addMember item key' u = .ok item' →
      addMember (f item) key' u = .ok (f item'))
    (hkey : ∀ item item', addMember item key v = .ok item' →
      addMember item key v' = .ok item' ∨ addMember item key v' = .ok (f item'))
    {before after : List (String × Json)} (hafter : key ∉ after.map Prod.fst) {item b : PathItem}
    (h : addMembers item (before ++ (key, v) :: after) = .ok b) :
    addMembers item (before ++ (key, v') :: after) = .ok b ∨
      addMembers item (before ++ (key, v') :: after) = .ok (f b) := by
  have hrest : ∀ ms item b, key ∉ ms.map Prod.fst → addMembers item ms = .ok b →
      addMembers (f item) ms = .ok (f b) := by
    intro ms
    induction ms with
    | nil =>
      intro item b _ h
      cases h
      rfl
    | cons m ms ih =>
      intro item b hm h
      obtain ⟨hne, hms⟩ := not_or.1 (mt List.mem_cons.2 hm)
      obtain ⟨item', hitem, h⟩ := bind_eq_ok.1 h
      exact bind_eq_ok.2 ⟨f item', hf _ _ _ _ (Ne.symm hne) hitem, ih item' b hms h⟩
  induction before generalizing item with
  | nil =>
    obtain ⟨item', hitem, h⟩ := bind_eq_ok.1 h
    rcases hkey item item' hitem with hitem | hitem
    · exact .inl (bind_eq_ok.2 ⟨item', hitem, h⟩)
    · exact .inr (bind_eq_ok.2 ⟨f item', hitem, hrest after item' b hafter h⟩)
  | cons m before ih =>
    obtain ⟨item', hitem, h⟩ := bind_eq_ok.1 h
    exact (ih h).imp (fun h => bind_eq_ok.2 ⟨item', hitem, h⟩)
      (fun h => bind_eq_ok.2 ⟨item', hitem, h⟩)

/-- Members with other keys know nothing of the entry. -/
theorem addMember_withEntry {method : Option Method} {key : String} {steps : List NodeStep}
    (hlead : Leads method key steps) {item item' : PathItem} {key' : String} {u : Json}
    (hne : key' ≠ key) (h : addMember item key' u = .ok item') :
    addMember (item.withEntry i entry method) key' u = .ok (item'.withEntry i entry method) := by
  rcases key_cases key' with rfl | ⟨m', rfl⟩ | ⟨hother, hnone⟩
  · obtain ⟨ps, hread, rfl⟩ := addMember_parametersKey_eq_ok.1 h
    cases hlead with
    | shared => exact absurd rfl hne
    | own hs => exact addMember_parametersKey_eq_ok.2 ⟨ps, hread, rfl⟩
  · obtain ⟨o, hread, rfl⟩ := addMember_name_eq_ok.1 h
    refine addMember_name_eq_ok.2 ⟨o, hread, ?_⟩
    cases hlead with
    | shared => rfl
    | @own m _ hs =>
      have hm : m' ≠ m := fun hm => hne (congrArg Method.name hm)
      simp only [withEntry, OrderedMap.adjust_put hm]
  · rw [addMember_other hother hnone] at h ⊢
    cases h
    rfl

/-- The member with the entry is read as before, but for the entry. -/
theorem addMember_replaced {method : Option Method} {key : String} {steps : List NodeStep}
    (hlead : Leads method key steps) (he : readParameterEntry e = .ok entry) {v v' : Json}
    (hv : Node.Replaced e (steps ++ [.index i]) (.ofJson v) (.ofJson v')) {item item' : PathItem}
    (h : addMember item key v = .ok item') :
    addMember item key v' = .ok item' ∨
      addMember item key v' = .ok (item'.withEntry i entry method) := by
  cases hlead with
  | shared =>
    obtain ⟨ps, hread, rfl⟩ := addMember_parametersKey_eq_ok.1 h
    exact .inr (addMember_parametersKey_eq_ok.2 ⟨_, readList_replaced he hv hread, rfl⟩)
  | @own m _ hs =>
    obtain ⟨o, hread, rfl⟩ := addMember_name_eq_ok.1 h
    rcases Operation.read_replaced he hs hv hread with hread' | hread'
    · exact .inl (addMember_name_eq_ok.2 ⟨o, hread', rfl⟩)
    · refine .inr (addMember_name_eq_ok.2 ⟨_, hread', ?_⟩)
      simp only [withEntry, OrderedMap.adjust_put_self]

/-- **A path item with another entry in a parameter list is read as before**, but for the entry. -/
theorem read_replaced {rules : Rules} {method : Option Method} {key : String}
    {steps : List NodeStep} (hlead : Leads method key steps) {w : Json} (hw : e.toJson? = some w)
    (he : readParameterEntry (.ofJson w) = .ok entry)
    (h : Node.Replaced e (.key key :: (steps ++ [.index i])) n n') {item : PathItem}
    (hitem : read rules n = .ok item) :
    read rules n' = .ok item ∨ read rules n' = .ok (item.withEntry i entry method) := by
  cases h with
  | @member _ before after _ m m' h =>
    obtain ⟨ms, hms, hitem⟩ := bind_eq_ok.1 hitem
    obtain ⟨ps, v, qs, rfl, hv, hpairs⟩ := readEntries_replaced hms
    have hv : m.toJson? = some v := by
      unfold readValue at hv
      split at hv
      · rename_i hm
        cases hv
        exact hm
      · cases hv
    obtain ⟨v', hv', hreplaced⟩ := h.toJson hw hv
    have hread : ∀ b, ofMembers (ps ++ (key, v') :: qs) = .ok b →
        read rules (.record (before ++ (.string key, m') :: after)) = .ok b := fun b hb =>
      bind_eq_ok.2 ⟨_, hpairs m' v' (by simp only [readValue, hv']), hb⟩
    rcases hreplaced with rfl | hreplaced
    · exact .inl (hread item hitem)
    · unfold ofMembers at hitem hread
      rcases Entries.ofPairs_replaced key v v' ps qs with h | ⟨before', after', h, h'⟩
      · exact .inl (hread item (h ▸ hitem))
      · have hdistinct := Entries.nodup_keys_ofPairs (ps ++ (key, v) :: qs)
        rw [h, Entries.keys, List.map_append, List.map_cons, List.nodup_append,
          List.nodup_cons] at hdistinct
        rw [h] at hitem
        rw [h'] at hread
        exact (addMembers_replaced (fun _ _ _ _ => addMember_withEntry hlead)
          (fun _ _ => addMember_replaced hlead he hreplaced) hdistinct.2.1.1 hitem).imp (hread _)
          (hread _)

end PathItem

/-! ## Documents -/

namespace Document

theorem commutes (rules : Rules) (place : EntryPlace) (entry : ParameterEntry) :
    CommutesBesides (setField rules) (·.withEntry place entry) "paths" := by
  intro name n a b hname h
  unfold setField at h ⊢
  split at h
  case h_3 => exact absurd rfl hname
  case h_6 =>
    cases h
    rfl
  all_goals
    obtain ⟨v, hv, rfl⟩ := map_eq_ok.1 h
    exact map_eq_ok.2 ⟨v, hv, rfl⟩

/-- **A document with another entry in a parameter list is read as before**, but for the entry,
whatever value it has. -/
theorem read_replaced {rules : Rules} {place : EntryPlace} {steps : List NodeStep}
    (hlead : place.Leads steps) {w : Json} (hw : e.toJson? = some w)
    (he : readParameterEntry (.ofJson w) = .ok entry) (h : Node.Replaced e steps n n')
    {d : Document} (hd : read rules n = .ok d) :
    read rules n' = .ok d ∨ read rules n' = .ok (d.withEntry place entry) := by
  cases hlead with
  | @intro path key method i s steps hs hlead =>
    refine readRecord_replaced (commutes rules ⟨path, method, i⟩ entry) (by decide) hs (by decide)
      ?_ h hd
    intro m m' hm a b hb
    obtain ⟨paths, hpaths, rfl⟩ := map_eq_ok.1 hb
    cases hm with
    | @member _ before after _ u u' hu =>
      obtain ⟨rs, hrs, rfl⟩ := map_eq_ok.1 hpaths
      obtain ⟨ps, item, qs, rfl, hitem, hpairs⟩ := readEntries_replaced hrs
      rcases PathItem.read_replaced hlead hw he hu hitem with hitem' | hitem'
      · exact .inl (map_eq_ok.2 ⟨_, map_eq_ok.2 ⟨_, hpairs _ _ hitem', rfl⟩, rfl⟩)
      · have hset : readMap rules (PathItem.read rules)
              (.record (before ++ (.string path, u') :: after)) =
            .ok (.ofPairs (ps ++ (path, item.withEntry i entry method) :: qs)) :=
          map_eq_ok.2 ⟨_, hpairs _ _ hitem', rfl⟩
        rcases OrderedMap.ofPairs_adjust path item
            (fun item => item.withEntry i entry method) ps qs with h | h
        · exact .inl (map_eq_ok.2 ⟨_, hset, by rw [h]⟩)
        · exact .inr (map_eq_ok.2 ⟨_, hset, by rw [h]; rfl⟩)

end Document

end OpenApi

end TypedRequests
