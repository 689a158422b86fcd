/-!
# Maps in order of insertion

A map keeps its keys in the order in which they first came; a later value for a key takes the place
of the earlier one.

* `Entries.put`, `Entries.find?` : the operations on a list of entries.
* `OrderedMap` : lists of entries with distinct keys.
* `keys_put` : putting a value adds its key at the end, or changes no key.
* `find?_put`, `mem_put` : the value stands under its key, and nothing else changes.
-/

set_option autoImplicit false

namespace TypedRequests

variable {κ : Type} {α : Type} [DecidableEq κ]

/-! ## Lists of entries -/

namespace Entries

/-- The value of a key: that of its first entry. -/
def find? (key : κ) : List (κ × α) → Option α
  | [] => none
  | (k, v) :: es => if k = key then some v else find? key es

/-- The entries with a value for a key: in the place of its first entry, or at the end. -/
def put (key : κ) (value : α) : List (κ × α) → List (κ × α)
  | [] => [(key, value)]
  | (k, v) :: es => if k = key then (k, value) :: es else (k, v) :: put key value es

/-- The entries put one after the other: each key stands where it first came, with its last
value. -/
def ofPairs (es : List (κ × α)) : List (κ × α) :=
  es.foldl (fun m e => put e.1 e.2 m) []

/-- The keys, in order. -/
def keys (es : List (κ × α)) : List κ :=
  es.map Prod.fst

theorem keys_put (key : κ) (value : α) (es : List (κ × α)) :
    keys (put key value es) = if key ∈ keys es then keys es else keys es ++ [key] := by
  induction es with
  | nil => simp [put, keys]
  | cons e es ih =>
    obtain ⟨k, v⟩ := e
    by_cases h : k = key
    · simp [put, keys, h]
    · have h' : key ≠ k := fun e => h e.symm
      simp only [keys] at ih
      simp only [put, h, if_false, keys, List.map_cons, ih, List.mem_cons, h', false_or]
      by_cases hk : key ∈ es.map Prod.fst <;> simp [hk]

theorem nodup_keys_put {key : κ} {value : α} {es : List (κ × α)} (h : (keys es).Nodup) :
    (keys (put key value es)).Nodup := by
  rw [keys_put]
  split
  · exact h
  · rename_i hk
    rw [List.nodup_append]
    exact ⟨h, by simp, by simp; intro a ha e; exact hk (e ▸ ha)⟩

theorem find?_put (key key' : κ) (value : α) (es : List (κ × α)) :
    find? key' (put key value es) = if key = key' then some value else find? key' es := by
  induction es with
  | nil => simp [put, find?]
  | cons e es ih =>
    obtain ⟨k, v⟩ := e
    by_cases h : k = key
    · subst h
      simp only [put, if_true, find?]
      split <;> rfl
    · simp only [put, h, if_false, find?, ih]
      by_cases h' : k = key'
      · subst h'
        simp [Ne.symm h]
      · simp [h']

theorem isSome_find?_iff {key : κ} {es : List (κ × α)} :
    (find? key es).isSome = true ↔ key ∈ keys es := by
  induction es with
  | nil => simp [find?, keys]
  | cons e es ih =>
    obtain ⟨k, v⟩ := e
    simp only [keys] at ih
    by_cases h : k = key
    · simp [find?, keys, h]
    · simp [find?, keys, h, ih, Ne.symm h]

theorem find?_eq_some_iff {key : κ} {value : α} {es : List (κ × α)} (h : (keys es).Nodup) :
    find? key es = some value ↔ (key, value) ∈ es := by
  induction es with
  | nil => simp [find?]
  | cons e es ih =>
    obtain ⟨k, v⟩ := e
    have hk : k ∉ keys es ∧ (keys es).Nodup := List.nodup_cons.1 h
    by_cases he : k = key
    · subst he
      have hm : (k, value) ∉ es := fun hm => hk.1 (List.mem_map_of_mem hm)
      simp [find?, hm, eq_comm]
    · simp [find?, he, Ne.symm he, ih hk.2]

theorem mem_put {key : κ} {value : α} {e : κ × α} {es : List (κ × α)} (h : (keys es).Nodup) :
    e ∈ put key value es ↔ e = (key, value) ∨ e ∈ es ∧ e.1 ≠ key := by
  obtain ⟨k, v⟩ := e
  rw [← find?_eq_some_iff (nodup_keys_put h), ← find?_eq_some_iff h, find?_put]
  by_cases hk : key = k
  · simp [hk, eq_comm]
  · simp [hk, Ne.symm hk]

theorem nodup_keys_foldl_put (es m : List (κ × α)) (h : (keys m).Nodup) :
    (keys (es.foldl (fun m e => put e.1 e.2 m) m)).Nodup := by
  induction es generalizing m with
  | nil => exact h
  | cons e es ih => exact ih _ (nodup_keys_put h)

theorem nodup_keys_ofPairs (es : List (κ × α)) : (keys (ofPairs es)).Nodup :=
  nodup_keys_foldl_put es [] List.nodup_nil

end Entries

/-! ## Ordered maps -/

/-- A map whose keys keep the order in which they first came. -/
structure OrderedMap (κ : Type) (α : Type) where
  entries : List (κ × α)
  distinct : (Entries.keys entries).Nodup

namespace OrderedMap

/-- The map without entries. -/
def empty : OrderedMap κ α :=
  ⟨[], List.nodup_nil⟩

instance : Inhabited (OrderedMap κ α) :=
  ⟨⟨[], List.nodup_nil⟩⟩

/-- The map of the given entries; of two values for a key the later one counts. -/
def ofPairs (es : List (κ × α)) : OrderedMap κ α :=
  ⟨Entries.ofPairs es, Entries.nodup_keys_ofPairs es⟩

/-- The keys, in order. -/
def keys (m : OrderedMap κ α) : List κ :=
  Entries.keys m.entries

/-- The value of a key. -/
def find? (m : OrderedMap κ α) (key : κ) : Option α :=
  Entries.find? key m.entries

/-- The map with a value for a key. -/
def put (m : OrderedMap κ α) (key : κ) (value : α) : OrderedMap κ α :=
  ⟨Entries.put key value m.entries, Entries.nodup_keys_put m.distinct⟩

/-- The map has no entry. -/
def isEmpty (m : OrderedMap κ α) : Bool :=
  m.entries.isEmpty

end OrderedMap

end TypedRequests
