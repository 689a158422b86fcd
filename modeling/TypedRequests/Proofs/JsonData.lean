import Mathlib.Data.List.Forall2
import TypedRequests.Proofs.Parameters
import TypedRequests.Proofs.PrintedJson
import TypedRequests.Proofs.Replacing

/-!
# Data of JSON text

What is left of data when it is told as a JSON value, and what is special about the data of JSON
text.

* `Node.induction` : induction on data.
* `Node.toJson?_eq_list`, `Node.toJson?_eq_record` : the value of data, part by part.
* `Node.bare` : data without texts but those of strings and keys; it has the same value.
* `Node.scalars`, `Node.isPlain` : the scalars in data, and data without tags and repeated keys.
* `Node.All` : data whose scalars have a property.
* `JsonReader.legible` : the data of JSON text is bare, its scalars are those of tokens, and it is
  not nested too deep.
-/

set_option autoImplicit false

namespace TypedRequests

/-! ## Entries -/

namespace Entries

variable {κ α β : Type} [DecidableEq κ]

theorem ofPairs_ofPairs (es : List (κ × α)) : ofPairs (ofPairs es) = ofPairs es :=
  ofPairs_of_nodup (nodup_keys_ofPairs es)

theorem mem_of_mem_put {key : κ} {value : α} {e : κ × α} {es : List (κ × α)}
    (h : e ∈ put key value es) : e = (key, value) ∨ e ∈ es := by
  induction es with
  | nil => exact .inl (List.mem_singleton.1 h)
  | cons f es ih =>
    obtain ⟨k, v⟩ := f
    by_cases hk : k = key
    · rw [put, if_pos hk, hk] at h
      exact (List.mem_cons.1 h).imp_right (List.mem_cons_of_mem _)
    · rw [put, if_neg hk] at h
      rcases List.mem_cons.1 h with rfl | h
      · exact .inr (List.mem_cons_self ..)
      · exact (ih h).imp_right (List.mem_cons_of_mem _)

/-- Nothing else is put into a map. -/
theorem mem_of_mem_ofPairs {e : κ × α} {es : List (κ × α)} (h : e ∈ ofPairs es) : e ∈ es := by
  suffices ∀ m, e ∈ es.foldl (fun m e => put e.1 e.2 m) m → e ∈ m ∨ e ∈ es from
    (this [] h).resolve_left List.not_mem_nil
  clear h
  induction es with
  | nil => exact fun m h => .inl h
  | cons f es ih =>
    intro m h
    rcases ih _ h with h | h
    · rcases mem_of_mem_put h with rfl | h
      · exact .inr (List.mem_cons_self ..)
      · exact .inl h
    · exact .inr (List.mem_cons_of_mem _ h)

/-- The entries have the same keys, and values that go together. -/
def Alike (R : α → β → Prop) : List (κ × α) → List (κ × β) → Prop :=
  List.Forall₂ fun e f => e.1 = f.1 ∧ R e.2 f.2

variable {R : α → β → Prop} {es : List (κ × α)} {fs : List (κ × β)}

theorem Alike.put (h : Alike R es fs) (key : κ) {a : α} {b : β} (hab : R a b) :
    Alike R (put key a es) (put key b fs) := by
  induction h with
  | nil => exact .cons ⟨rfl, hab⟩ .nil
  | @cons e f es fs hef _ ih =>
    obtain ⟨k, c⟩ := e
    obtain ⟨k', c'⟩ := f
    obtain ⟨rfl, hc⟩ : k = k' ∧ R c c' := hef
    by_cases hk : k = key
    · simp only [Entries.put, if_pos hk]
      exact .cons ⟨rfl, hab⟩ ‹_›
    · simp only [Entries.put, if_neg hk]
      exact .cons ⟨rfl, hc⟩ ih

/-- **Values that go together still do when the last one of each key counts.** -/
theorem Alike.ofPairs (h : Alike R es fs) : Alike R (ofPairs es) (ofPairs fs) := by
  suffices ∀ m l, Alike R m l → Alike R (es.foldl (fun m e => Entries.put e.1 e.2 m) m)
      (fs.foldl (fun m e => Entries.put e.1 e.2 m) l) from this [] [] .nil
  induction h with
  | nil => exact fun m l hml => hml
  | cons hef _ ih =>
    intro m l hml
    rw [List.foldl_cons, List.foldl_cons, ← hef.1]
    exact ih _ _ (hml.put _ hef.2)

end Entries

namespace Node

/-! ## Values of data -/

/-- Induction on data. -/
theorem induction {P : Node → Prop} (hleaf : ∀ l, P (leaf l))
    (hlist : ∀ ns, (∀ n ∈ ns, P n) → P (list ns))
    (hrecord : ∀ es, (∀ e ∈ es, P e.2) → P (record es))
    (htagged : ∀ n, P n → P (tagged n)) : ∀ n, P n
  | leaf l => hleaf l
  | list ns => hlist ns fun n _ => induction hleaf hlist hrecord htagged n
  | record es => hrecord es fun e _ => induction hleaf hlist hrecord htagged e.2
  | tagged n => htagged n (induction hleaf hlist hrecord htagged n)
termination_by n => sizeOf n
decreasing_by
  · have hsize := List.sizeOf_lt_of_mem ‹_›
    rw [list.sizeOf_spec]
    omega
  · have hsize := List.sizeOf_lt_of_mem ‹_›
    have hentry : sizeOf e.2 < sizeOf e := by
      rw [show sizeOf e = 1 + sizeOf e.1 + sizeOf e.2 from rfl]
      omega
    rw [record.sizeOf_spec]
    omega
  · rw [tagged.sizeOf_spec]
    omega

/-- All scalars in the data have the property, keys among them. -/
inductive All (P : Leaf → Prop) : Node → Prop where
  | leaf {l : Leaf} (h : P l) : All P (leaf l)
  | list {ns : List Node} (h : ∀ n ∈ ns, All P n) : All P (list ns)
  | record {es : List (Leaf × Node)} (hkeys : ∀ e ∈ es, P e.1) (h : ∀ e ∈ es, All P e.2) :
      All P (record es)
  | tagged {n : Node} (h : All P n) : All P (tagged n)

theorem All.mono {P Q : Leaf → Prop} (hPQ : ∀ l, P l → Q l) {n : Node} (h : n.All P) :
    n.All Q := by
  induction h with
  | leaf h => exact .leaf (hPQ _ h)
  | list _ ih => exact .list ih
  | record hkeys _ ih => exact .record (fun e he => hPQ _ (hkeys e he)) ih
  | tagged _ ih => exact .tagged ih

/-- The data has the value. -/
def HasValue (n : Node) (v : Json) : Prop :=
  n.toJson? = some v

/-- The entry has the name and the value. -/
def EntryValue (e : Leaf × Node) (m : String × Json) : Prop :=
  e.1.text = some m.1 ∧ e.2.HasValue m.2

theorem itemsToJson?_eq_some {ns : List Node} {vs : List Json} :
    itemsToJson? ns = some vs ↔ List.Forall₂ HasValue ns vs := by
  induction ns generalizing vs with
  | nil => simp [itemsToJson?, eq_comm]
  | cons n ns ih =>
    rw [itemsToJson?_cons_eq_some, List.forall₂_cons_left_iff]
    simp only [ih, HasValue]
    constructor
    · rintro ⟨v, vs, hv, hvs, rfl⟩
      exact ⟨v, vs, hv, hvs, rfl⟩
    · rintro ⟨v, vs, hv, hvs, rfl⟩
      exact ⟨v, vs, hv, hvs, rfl⟩

theorem entriesToJson?_eq_some {es : List (Leaf × Node)} {ms : List (String × Json)} :
    entriesToJson? es = some ms ↔ List.Forall₂ EntryValue es ms := by
  induction es generalizing ms with
  | nil => simp [entriesToJson?, eq_comm]
  | cons e es ih =>
    obtain ⟨k, n⟩ := e
    rw [List.forall₂_cons_left_iff]
    simp only [← ih, EntryValue, HasValue, entriesToJson?]
    cases k.text <;> cases n.toJson? <;> cases entriesToJson? es <;> simp [eq_comm]

/-- The value of a list is the array of the values. -/
theorem hasValue_list {ns : List Node} {v : Json} :
    HasValue (list ns) v ↔ ∃ vs, List.Forall₂ HasValue ns vs ∧ .array vs = v := by
  simp only [HasValue, toJson?, Option.map_eq_some_iff, itemsToJson?_eq_some]

/-- The value of a record is an object; of the values of a repeated key the last one counts. -/
theorem hasValue_record {es : List (Leaf × Node)} {v : Json} :
    HasValue (record es) v ↔
      ∃ ms, List.Forall₂ EntryValue es ms ∧ .object (Entries.ofPairs ms) = v := by
  simp only [HasValue, toJson?, Option.map_eq_some_iff, entriesToJson?_eq_some]

theorem hasValue_leaf {l : Leaf} {v : Json} :
    HasValue (leaf l) v ↔ ∃ s, l.value = some s ∧ .scalar s.finite = v := by
  simp only [HasValue, toJson?, Option.map_eq_some_iff]

theorem not_hasValue_tagged {n : Node} {v : Json} : ¬ HasValue (tagged n) v :=
  nofun

theorem itemsOfJson_eq (vs : List Json) : itemsOfJson vs = vs.map ofJson := by
  induction vs with
  | nil => rfl
  | cons v vs ih => rw [itemsOfJson, ih, List.map_cons]

theorem entriesOfJson_eq (ms : List (String × Json)) :
    entriesOfJson ms = ms.map fun m => (.string m.1, ofJson m.2) := by
  induction ms with
  | nil => rfl
  | cons m ms ih => rw [entriesOfJson, ih, List.map_cons]

theorem value_ofScalar (s : Scalar) : (Leaf.ofScalar s).value = some s := by
  cases s <;> rfl

theorem finite_finite (s : Scalar) : s.finite.finite = s.finite := by
  cases s with
  | real x =>
    unfold Scalar.finite
    cases h : x.isFinite <;> simp [h]
  | _ => rfl

theorem forall₂_of_mem_left {α β : Type} {R S : α → β → Prop} {as : List α} {bs : List β}
    (h : List.Forall₂ R as bs) (hRS : ∀ a ∈ as, ∀ b, R a b → S a b) : List.Forall₂ S as bs := by
  induction h with
  | nil => exact .nil
  | cons hab _ ih =>
    obtain ⟨hfirst, hrest⟩ := List.forall_mem_cons.1 hRS
    exact .cons (hfirst _ hab) (ih hrest)

theorem map_eq_of_forall₂ {α β : Type} {f : β → α} {as : List α} {bs : List β}
    (h : List.Forall₂ (fun a b => f b = a) as bs) : bs.map f = as := by
  induction h with
  | nil => rfl
  | cons hab _ ih => rw [List.map_cons, hab, ih]

theorem exists_of_mem_right {α β : Type} {R : α → β → Prop} {as : List α} {bs : List β}
    (h : List.Forall₂ R as bs) {b : β} (hb : b ∈ bs) : ∃ a ∈ as, R a b := by
  induction h with
  | nil => cases hb
  | @cons a b' as bs hab _ ih =>
    rcases List.mem_cons.1 hb with rfl | hb
    · exact ⟨a, List.mem_cons_self .., hab⟩
    · obtain ⟨a', ha', hab'⟩ := ih hb
      exact ⟨a', List.mem_cons_of_mem _ ha', hab'⟩

/-- **The data that stands for the value of other data has this value.** -/
theorem HasValue.ofJson {n : Node} {v : Json} (h : n.HasValue v) : (Node.ofJson v).HasValue v := by
  induction n using induction generalizing v with
  | hleaf l =>
    obtain ⟨s, -, rfl⟩ := hasValue_leaf.1 h
    exact hasValue_leaf.2 ⟨s.finite, value_ofScalar _, by rw [finite_finite]⟩
  | hlist ns ih =>
    obtain ⟨vs, hvs, rfl⟩ := hasValue_list.1 h
    refine hasValue_list.2 ⟨vs, ?_, rfl⟩
    rw [itemsOfJson_eq, List.forall₂_map_left_iff, List.forall₂_same]
    intro v hv
    obtain ⟨n, hn, hnv⟩ := exists_of_mem_right hvs hv
    exact ih n hn hnv
  | hrecord es ih =>
    obtain ⟨ms, hms, rfl⟩ := hasValue_record.1 h
    refine hasValue_record.2 ⟨Entries.ofPairs ms, ?_, by rw [Entries.ofPairs_ofPairs]⟩
    rw [entriesOfJson_eq, List.forall₂_map_left_iff, List.forall₂_same]
    intro m hm
    obtain ⟨e, he, hem⟩ := exists_of_mem_right hms (Entries.mem_of_mem_ofPairs hm)
    exact ⟨rfl, ih e he hem.2⟩
  | htagged n => exact absurd h not_hasValue_tagged

end Node

/-! ## Bare data -/

/-- The scalar as JSON text could have it: only strings have a text. -/
def Leaf.bare (l : Leaf) : Leaf :=
  match l.value with
  | some s => .ofScalar s
  | none => .unreadable

/-- The key as JSON text could have it: a string. -/
def Leaf.bareKey (l : Leaf) : Leaf :=
  match l.text with
  | some s => .string s
  | none => .unreadable

theorem Leaf.value_bare (l : Leaf) : l.bare.value = l.value := by
  unfold bare
  split
  · rw [Node.value_ofScalar]
    exact Eq.symm ‹_›
  · exact Eq.symm ‹_›

theorem Leaf.text_bareKey (l : Leaf) : l.bareKey.text = l.text := by
  unfold bareKey
  split
  · exact Eq.symm ‹_›
  · exact Eq.symm ‹_›

/-- The scalar is a string. -/
def Leaf.isString (l : Leaf) : Bool :=
  l.text.any fun s => l == .string s

theorem Leaf.isString_iff {l : Leaf} : l.isString = true ↔ ∃ s, l = .string s := by
  rw [isString, Option.any_eq_true]
  constructor
  · rintro ⟨s, -, h⟩
    exact ⟨s, beq_iff_eq.1 h⟩
  · rintro ⟨s, rfl⟩
    exact ⟨s, rfl, beq_iff_eq.2 rfl⟩

theorem Leaf.bare_of_value {l : Leaf} {s : Scalar} (h : l.value = some s) :
    l.bare = .ofScalar s := by
  rw [bare, h]

namespace Node

mutual

/-- The data as JSON text could have it: keys are strings, and only strings have a text. -/
def bare : Node → Node
  | leaf l => leaf l.bare
  | list ns => list (bareItems ns)
  | record es => record (bareEntries es)
  | tagged _ => unreadable

/-- The items as JSON text could have them. -/
def bareItems : List Node → List Node
  | [] => []
  | n :: ns => n.bare :: bareItems ns

/-- The entries as JSON text could have them. -/
def bareEntries : List (Leaf × Node) → List (Leaf × Node)
  | [] => []
  | (k, n) :: es => (k.bareKey, n.bare) :: bareEntries es

end

mutual

/-- The scalars in the data, but for keys. -/
def scalars : Node → List Scalar
  | leaf l => l.value.toList
  | list ns => itemsScalars ns
  | record es => entriesScalars es
  | tagged n => n.scalars

/-- The scalars in items. -/
def itemsScalars : List Node → List Scalar
  | [] => []
  | n :: ns => n.scalars ++ itemsScalars ns

/-- The scalars in the values of entries. -/
def entriesScalars : List (Leaf × Node) → List Scalar
  | [] => []
  | (_, n) :: es => n.scalars ++ entriesScalars es

end

mutual

/-- The data has no tags, and the keys of each record are different strings. -/
def isPlain : Node → Bool
  | leaf _ => true
  | list ns => itemsPlain ns
  | record es => es.all (·.1.isString) && decide (es.map Prod.fst).Nodup && entriesPlain es
  | tagged _ => false

/-- The items have no tags, and the keys of each record in them are different strings. -/
def itemsPlain : List Node → Bool
  | [] => true
  | n :: ns => n.isPlain && itemsPlain ns

/-- The values of the entries have no tags, and the keys of each record in them are different
strings. -/
def entriesPlain : List (Leaf × Node) → Bool
  | [] => true
  | (_, n) :: es => n.isPlain && entriesPlain es

end

theorem bareItems_eq (ns : List Node) : bareItems ns = ns.map bare := by
  induction ns with
  | nil => rfl
  | cons n ns ih => rw [bareItems, ih, List.map_cons]

theorem bareEntries_eq (es : List (Leaf × Node)) :
    bareEntries es = es.map fun e => (e.1.bareKey, e.2.bare) := by
  induction es with
  | nil => rfl
  | cons e es ih => rw [bareEntries, ih, List.map_cons]

theorem mem_itemsScalars {ns : List Node} {s : Scalar} :
    s ∈ itemsScalars ns ↔ ∃ n ∈ ns, s ∈ n.scalars := by
  induction ns with
  | nil => simp [itemsScalars]
  | cons n ns ih => simp [itemsScalars, ih]

theorem mem_entriesScalars {es : List (Leaf × Node)} {s : Scalar} :
    s ∈ entriesScalars es ↔ ∃ e ∈ es, s ∈ e.2.scalars := by
  induction es with
  | nil => simp [entriesScalars]
  | cons e es ih => simp [entriesScalars, ih]

/-- Every scalar in the data is the value of one with the property. -/
theorem All.exists_of_mem_scalars {P : Leaf → Prop} {n : Node} (h : n.All P) {s : Scalar}
    (hs : s ∈ n.scalars) : ∃ l, P l ∧ l.value = some s := by
  induction h with
  | leaf h => exact ⟨_, h, Option.mem_toList.1 hs⟩
  | list _ ih =>
    obtain ⟨n, hn, hs⟩ := mem_itemsScalars.1 hs
    exact ih n hn hs
  | record _ _ ih =>
    obtain ⟨e, he, hs⟩ := mem_entriesScalars.1 hs
    exact ih e he hs
  | tagged _ ih => exact ih hs

theorem isPlain_list {ns : List Node} :
    (list ns).isPlain = true ↔ ∀ n ∈ ns, n.isPlain = true := by
  rw [isPlain]
  induction ns with
  | nil => simp [itemsPlain]
  | cons n ns ih => simp [itemsPlain, ih]

theorem isPlain_record {es : List (Leaf × Node)} : (record es).isPlain = true ↔
    (∀ e ∈ es, e.1.isString = true) ∧ (es.map Prod.fst).Nodup ∧ ∀ e ∈ es, e.2.isPlain = true := by
  have hentries : entriesPlain es = true ↔ ∀ e ∈ es, e.2.isPlain = true := by
    induction es with
    | nil => simp [entriesPlain]
    | cons e es ih => simp [entriesPlain, ih]
  rw [isPlain, Bool.and_eq_true, Bool.and_eq_true, hentries, List.all_eq_true, decide_eq_true_iff,
    and_assoc]

/-- Bare data is bare. -/
theorem bare_bare (n : Node) : n.bare.bare = n.bare := by
  induction n using induction with
  | hleaf l => rw [Node.bare, Node.bare, Leaf.bare, Leaf.value_bare, Leaf.bare]
  | hlist ns ih =>
    rw [Node.bare, Node.bare, bareItems_eq, bareItems_eq, List.map_map]
    exact congrArg _ (List.map_congr_left ih)
  | hrecord es ih =>
    rw [Node.bare, Node.bare, bareEntries_eq, bareEntries_eq, List.map_map]
    refine congrArg _ (List.map_congr_left fun e he => Prod.ext ?_ (ih e he))
    exact (by rw [Leaf.bareKey, Leaf.text_bareKey, Leaf.bareKey] : e.1.bareKey.bareKey = e.1.bareKey)
  | htagged n => rfl

/-- **Bare data has the same value.** -/
theorem HasValue.bare {n : Node} {v : Json} (h : n.HasValue v) : n.bare.HasValue v := by
  induction n using induction generalizing v with
  | hleaf l =>
    obtain ⟨s, hs, rfl⟩ := hasValue_leaf.1 h
    exact hasValue_leaf.2 ⟨s, by rw [Leaf.bare_of_value hs, value_ofScalar], rfl⟩
  | hlist ns ih =>
    obtain ⟨vs, hvs, rfl⟩ := hasValue_list.1 h
    refine hasValue_list.2 ⟨vs, ?_, rfl⟩
    rw [bareItems_eq, List.forall₂_map_left_iff]
    exact forall₂_of_mem_left hvs fun n hn v hv => ih n hn hv
  | hrecord es ih =>
    obtain ⟨ms, hms, rfl⟩ := hasValue_record.1 h
    refine hasValue_record.2 ⟨ms, ?_, rfl⟩
    rw [bareEntries_eq, List.forall₂_map_left_iff]
    refine forall₂_of_mem_left hms fun e he m hm => ⟨?_, ih e he hm.2⟩
    rw [Leaf.bareKey, hm.1]
    rfl
  | htagged n => exact absurd h not_hasValue_tagged

/-- The scalars in bare data are those in the data. -/
theorem mem_scalars_of_bare {n : Node} {s : Scalar} (h : s ∈ n.bare.scalars) : s ∈ n.scalars := by
  induction n using induction with
  | hleaf l =>
    simp only [Node.bare, scalars] at h ⊢
    unfold Leaf.bare at h
    split at h
    · rename_i hvalue
      rw [hvalue]
      rwa [value_ofScalar] at h
    · cases h
  | hlist ns ih =>
    rw [Node.bare, scalars, bareItems_eq, mem_itemsScalars] at h
    obtain ⟨_, hmem, hs⟩ := h
    obtain ⟨n, hn, rfl⟩ := List.mem_map.1 hmem
    exact mem_itemsScalars.2 ⟨n, hn, ih n hn hs⟩
  | hrecord es ih =>
    rw [Node.bare, scalars, bareEntries_eq, mem_entriesScalars] at h
    obtain ⟨_, hmem, hs⟩ := h
    obtain ⟨e, he, rfl⟩ := List.mem_map.1 hmem
    exact mem_entriesScalars.2 ⟨e, he, ih e he hs⟩
  | htagged n => cases h

theorem map_eq_self {α : Type} {f : α → α} {as : List α} (h : as.map f = as) :
    ∀ a ∈ as, f a = a := by
  induction as with
  | nil => exact nofun
  | cons a as ih =>
    obtain ⟨ha, has⟩ := List.cons.inj h
    exact List.forall_mem_cons.2 ⟨ha, ih has⟩

theorem bare_items {ns : List Node} (h : (list ns).bare = list ns) : ∀ n ∈ ns, n.bare = n := by
  rw [Node.bare, bareItems_eq] at h
  exact map_eq_self (list.inj h)

theorem bare_entries {es : List (Leaf × Node)} (h : (record es).bare = record es) :
    ∀ e ∈ es, e.1.bareKey = e.1 ∧ e.2.bare = e.2 := by
  rw [Node.bare, bareEntries_eq] at h
  exact fun e he => Prod.mk.inj (map_eq_self (record.inj h) e he)

/-- The keys of bare data are strings, if they have a text. -/
theorem key_eq_string {k : Leaf} {name : String} (hbare : k.bareKey = k) (h : k.text = some name) :
    k = .string name := by
  rw [Leaf.bareKey, h] at hbare
  exact hbare.symm

/-- Bare data is plain if the data is. -/
theorem isPlain_bare {n : Node} (h : n.isPlain = true) : n.bare.isPlain = true := by
  induction n using induction with
  | hleaf l => rfl
  | hlist ns ih =>
    rw [isPlain_list] at h
    rw [Node.bare, bareItems_eq, isPlain_list, List.forall_mem_map]
    exact fun n hn => ih n hn (h n hn)
  | hrecord es ih =>
    obtain ⟨hstring, hnodup, hplain⟩ := isPlain_record.1 h
    have hkey : ∀ e ∈ es, e.1.bareKey = e.1 := by
      intro e he
      obtain ⟨s, hs⟩ := Leaf.isString_iff.1 (hstring e he)
      rw [hs]
      rfl
    have hkeys : es.map (Prod.fst ∘ fun e => (e.1.bareKey, e.2.bare)) = es.map Prod.fst :=
      List.map_congr_left hkey
    rw [Node.bare, bareEntries_eq, isPlain_record, List.map_map, hkeys, List.forall_mem_map,
      List.forall_mem_map]
    refine ⟨fun e he => ?_, hnodup, fun e he => ih e he (hplain e he)⟩
    rw [hkey e he]
    exact hstring e he
  | htagged n => cases h

/-- **Plain data is told by its value**, if it is bare and its numbers are finite. -/
theorem ofJson_of_plain {n : Node} {v : Json} (h : n.HasValue v) (hbare : n.bare = n)
    (hplain : n.isPlain = true) (hfinite : ∀ s ∈ n.scalars, s.finite = s) : Node.ofJson v = n := by
  induction n using induction generalizing v with
  | hleaf l =>
    obtain ⟨s, hs, rfl⟩ := hasValue_leaf.1 h
    rw [Node.bare, Leaf.bare_of_value hs] at hbare
    rw [hfinite s (by simp [scalars, hs])]
    exact hbare
  | hlist ns ih =>
    obtain ⟨vs, hvs, rfl⟩ := hasValue_list.1 h
    rw [isPlain_list] at hplain
    have hitems : List.Forall₂ (fun n v => Node.ofJson v = n) ns vs :=
      forall₂_of_mem_left hvs fun n hn v hv => ih n hn hv (bare_items hbare n hn) (hplain n hn)
        fun s hs => hfinite s (mem_itemsScalars.2 ⟨n, hn, hs⟩)
    rw [Node.ofJson, itemsOfJson_eq, map_eq_of_forall₂ hitems]
  | hrecord es ih =>
    obtain ⟨ms, hms, rfl⟩ := hasValue_record.1 h
    obtain ⟨-, hnodup, hplain⟩ := isPlain_record.1 hplain
    have hentries : List.Forall₂ (fun e m => (Leaf.string m.1, Node.ofJson m.2) = e) es ms := by
      refine forall₂_of_mem_left hms fun e he m hm => ?_
      obtain ⟨hkey, hvalue⟩ := bare_entries hbare e he
      rw [← key_eq_string hkey hm.1, ih e he hm.2 hvalue (hplain e he)
        fun s hs => hfinite s (mem_entriesScalars.2 ⟨e, he, hs⟩)]
    have hes := map_eq_of_forall₂ hentries
    have hkeys : (Entries.keys ms).Nodup := by
      rw [← hes, List.map_map] at hnodup
      exact List.Nodup.of_map Leaf.string (by rwa [Entries.keys, List.map_map])
    rw [Entries.ofPairs_of_nodup hkeys, Node.ofJson, entriesOfJson_eq, hes]
  | htagged n => exact absurd h not_hasValue_tagged

/-! ## Survival and depth -/

theorem itemsSurvive_iff {vs : List Json} : Json.ItemsSurvive vs ↔ ∀ v ∈ vs, v.Survives := by
  induction vs with
  | nil => simp [Json.ItemsSurvive]
  | cons v vs ih => simp [Json.ItemsSurvive, ih]

theorem membersSurvive_iff {ms : List (String × Json)} :
    Json.MembersSurvive ms ↔ ∀ m ∈ ms, m.2.Survives := by
  induction ms with
  | nil => simp [Json.MembersSurvive]
  | cons m ms ih => simp [Json.MembersSurvive, ih]

theorem itemsDepth_le_iff {vs : List Json} {k : Nat} :
    Json.itemsDepth vs ≤ k ↔ ∀ v ∈ vs, v.depth ≤ k := by
  induction vs with
  | nil => simp [Json.itemsDepth]
  | cons v vs ih => rw [Json.itemsDepth, Nat.max_le, ih, List.forall_mem_cons]

theorem membersDepth_le_iff {ms : List (String × Json)} {k : Nat} :
    Json.membersDepth ms ≤ k ↔ ∀ m ∈ ms, m.2.depth ≤ k := by
  induction ms with
  | nil => simp [Json.membersDepth]
  | cons m ms ih => rw [Json.membersDepth, Nat.max_le, ih, List.forall_mem_cons]

/-- A number that is not finite is printed as something else. -/
theorem finite_of_survives {s : Scalar} (h : s.Survives) : s.finite = s := by
  cases s with
  | real x =>
    cases hx : x.isFinite with
    | true => rw [Scalar.finite, hx, if_pos rfl]
    | false =>
      have htext : (Scalar.real x).text = Scalar.null.text := by simp [Scalar.text, hx]
      rw [Scalar.Survives, Scalar.reread?, htext] at h
      cases h
  | _ => rfl

/-- The value of data survives if the scalars in the data do. -/
theorem HasValue.survives {n : Node} {v : Json} (h : n.HasValue v)
    (hscalars : ∀ s ∈ n.scalars, s.Survives) : v.Survives := by
  induction n using induction generalizing v with
  | hleaf l =>
    obtain ⟨s, hs, rfl⟩ := hasValue_leaf.1 h
    have hsurvives := hscalars s (by simp [scalars, hs])
    rw [finite_of_survives hsurvives]
    exact hsurvives
  | hlist ns ih =>
    obtain ⟨vs, hvs, rfl⟩ := hasValue_list.1 h
    refine itemsSurvive_iff.2 fun v hv => ?_
    obtain ⟨n, hn, hnv⟩ := exists_of_mem_right hvs hv
    exact ih n hn hnv fun s hs => hscalars s (mem_itemsScalars.2 ⟨n, hn, hs⟩)
  | hrecord es ih =>
    obtain ⟨ms, hms, rfl⟩ := hasValue_record.1 h
    refine membersSurvive_iff.2 fun m hm => ?_
    obtain ⟨e, he, hem⟩ := exists_of_mem_right hms (Entries.mem_of_mem_ofPairs hm)
    exact ih e he hem.2 fun s hs => hscalars s (mem_entriesScalars.2 ⟨e, he, hs⟩)
  | htagged n => exact absurd h not_hasValue_tagged

end Node

/-! ## The data of JSON text -/

/-- The scalar is the one of a token. -/
def JsonReader.IsLeaf (l : Leaf) : Prop :=
  ∃ t, leaf? t = some l

/-- The data is bare, its scalars are those of tokens, and if it has a value, that is nested at most
so deep. -/
structure Node.Legible (k : Nat) (n : Node) : Prop where
  bare : n.bare = n
  leaves : n.All JsonReader.IsLeaf
  depth : ∀ v, n.HasValue v → v.depth ≤ k

namespace JsonReader

open Node

theorem isLeaf_unreadable : IsLeaf .unreadable :=
  ⟨.string none, rfl⟩

theorem legible_unreadable (k : Nat) : Legible k unreadable :=
  ⟨rfl, .leaf isLeaf_unreadable, fun v hv => by cases hv⟩

theorem ofScalar_eq {s : Scalar} (h : ∀ t, s ≠ .string t) : Leaf.ofScalar s = ⟨none, some s⟩ := by
  cases s with
  | string t => exact absurd rfl (h t)
  | _ => rfl

theorem bare_number {s : Option Scalar} (h : ∀ t, s ≠ some (.string t)) :
    Leaf.bare ⟨none, s⟩ = ⟨none, s⟩ := by
  cases s with
  | none => rfl
  | some s => exact ofScalar_eq fun t ht => h t (ht ▸ rfl)

theorem map_real_ne_string {x : Option Binary64} {t : String} :
    x.map Scalar.real ≠ some (.string t) := by
  cases x <;> nofun

theorem bare_leaf? {t : JsonToken} {l : Leaf} (h : leaf? t = some l) : l.bare = l := by
  cases t with
  | null =>
    cases h
    rfl
  | bool b =>
    cases h
    rfl
  | integer d =>
    cases h
    refine bare_number fun t ht => ?_
    simp only [integerScalar] at ht
    repeat' split at ht
    all_goals first | cases ht | exact map_real_ne_string ht
  | decimal d =>
    cases h
    exact bare_number fun t => map_real_ne_string
  | string s =>
    cases s <;> cases h <;> rfl
  | _ => cases h

theorem legible_leaf {t : JsonToken} {l : Leaf} (h : leaf? t = some l) (k : Nat) :
    Legible k (.leaf l) := by
  refine ⟨by rw [Node.bare, bare_leaf? h], .leaf ⟨t, h⟩, fun v hv => ?_⟩
  obtain ⟨s, -, rfl⟩ := hasValue_leaf.1 hv
  exact Nat.zero_le k

theorem legible_list {k : Nat} {ns : List Node} (h : ∀ n ∈ ns, Legible k n) :
    Legible (k + 1) (.list ns) := by
  refine ⟨?_, .list fun n hn => (h n hn).leaves, fun v hv => ?_⟩
  · rw [Node.bare, bareItems_eq, List.map_congr_left fun n hn => (h n hn).bare, List.map_id']
  · obtain ⟨vs, hvs, rfl⟩ := hasValue_list.1 hv
    refine Nat.succ_le_succ (itemsDepth_le_iff.2 fun v hv => ?_)
    obtain ⟨n, hn, hnv⟩ := exists_of_mem_right hvs hv
    exact (h n hn).depth v hnv

/-- The key is one of JSON text. -/
structure LegibleKey (key : Leaf) : Prop where
  bare : key.bareKey = key
  leaf : IsLeaf key

/-- The entry has a key and a value as in JSON text. -/
def LegibleEntry (k : Nat) (e : Leaf × Node) : Prop :=
  LegibleKey e.1 ∧ Legible k e.2

theorem legible_record {k : Nat} {es : List (Leaf × Node)} (h : ∀ e ∈ es, LegibleEntry k e) :
    Legible (k + 1) (.record es) := by
  have hkeys : ∀ e ∈ es, IsLeaf e.1 := fun e he => (h e he).1.leaf
  refine ⟨?_, .record hkeys fun e he => (h e he).2.leaves, fun v hv => ?_⟩
  · have hes : ∀ e ∈ es, (e.1.bareKey, e.2.bare) = e := fun e he =>
      Prod.ext (h e he).1.bare (h e he).2.bare
    rw [Node.bare, bareEntries_eq, List.map_congr_left hes, List.map_id']
  · obtain ⟨ms, hms, rfl⟩ := hasValue_record.1 hv
    refine Nat.succ_le_succ (membersDepth_le_iff.2 fun m hm => ?_)
    obtain ⟨e, he, hem⟩ := exists_of_mem_right hms (Entries.mem_of_mem_ofPairs hm)
    exact (h e he).2.depth m.2 hem.2

/-! ### The machine -/

/-- What is open holds data as in JSON text. -/
def OpenFits (k : Nat) : Open → Prop
  | .list items => ∀ n ∈ items, Legible k n
  | .record es => ∀ e ∈ es, LegibleEntry k e
  | .entry es key => (∀ e ∈ es, LegibleEntry k e) ∧ LegibleKey key

/-- What is open holds data as in JSON text, the less deep the more is open below. -/
def StackFits : List Open → Prop
  | [] => True
  | o :: stack => OpenFits (depthLimit - (stack.length + 1)) o ∧ StackFits stack

/-- The state holds data as in JSON text. -/
structure Fits (s : State) : Prop where
  stack : StackFits s.stack
  result : ∀ n, s.expecting = .nothing n → Legible depthLimit n

variable {s s' : State} {stack : List Open} {n : Node} {t : JsonToken}

theorem fits_complete (hstack : StackFits stack) (hn : Legible (depthLimit - stack.length) n)
    (h : complete n stack = some s) : Fits s := by
  cases stack with
  | nil =>
    cases h
    refine ⟨trivial, fun m hm => ?_⟩
    cases hm
    exact hn
  | cons o stack =>
    cases o with
    | list items =>
      cases h
      exact ⟨⟨List.forall_mem_cons.2 ⟨hn, hstack.1⟩, hstack.2⟩, nofun⟩
    | record es => cases h
    | entry es key =>
      cases h
      exact ⟨⟨List.forall_mem_cons.2 ⟨⟨hstack.1.2, hn⟩, hstack.1.1⟩, hstack.2⟩, nofun⟩

theorem fits_close (hstack : StackFits stack)
    (hn : Legible (depthLimit - (stack.length + 1) + 1) n) (h : close n stack = some s) :
    Fits s := by
  refine fits_complete hstack ?_ h
  split
  · rename_i hlength
    rwa [show depthLimit - stack.length = depthLimit - (stack.length + 1) + 1 by omega]
  · exact legible_unreadable _

theorem fits_beginValue (hstack : StackFits stack) (h : beginValue stack t = some s) : Fits s := by
  unfold beginValue at h
  split at h
  · cases h
    exact ⟨⟨nofun, hstack⟩, nofun⟩
  · cases h
    exact ⟨⟨nofun, hstack⟩, nofun⟩
  · split at h
    · exact fits_complete hstack (legible_leaf ‹_› _) h
    · cases h

theorem fits_beginEntry (hstack : StackFits stack) (h : beginEntry stack t = some s) : Fits s := by
  unfold beginEntry at h
  split at h
  · rename_i es stack name
    cases h
    refine ⟨⟨⟨hstack.1, ?_⟩, hstack.2⟩, nofun⟩
    cases name with
    | none => exact ⟨rfl, isLeaf_unreadable⟩
    | some s => exact ⟨rfl, .string (some s), rfl⟩
  · cases h

theorem fits_step (hs : Fits s) (h : step s t = some s') : Fits s' := by
  obtain ⟨stack, e⟩ := s
  obtain ⟨hstack, -⟩ := hs
  unfold step at h
  simp only at h hstack
  split at h
  · exact fits_beginValue hstack h
  · refine fits_close hstack.2 (legible_list fun n hn => ?_) h
    exact hstack.1 n (List.mem_reverse.1 hn)
  · exact fits_beginValue hstack h
  · refine fits_close hstack.2 (legible_record fun e he => ?_) h
    exact hstack.1 e (List.mem_reverse.1 he)
  · exact fits_beginEntry hstack h
  · exact fits_beginEntry hstack h
  · cases h
    exact ⟨hstack, nofun⟩
  · cases h
    exact ⟨hstack, nofun⟩
  · cases h
    exact ⟨hstack, nofun⟩
  · refine fits_close hstack.2 (legible_list fun n hn => ?_) h
    exact hstack.1 n (List.mem_reverse.1 hn)
  · refine fits_close hstack.2 (legible_record fun e he => ?_) h
    exact hstack.1 e (List.mem_reverse.1 he)
  · cases h

theorem fits_run {ts : List JsonToken} (hs : Fits s) (h : run s ts = some s') : Fits s' := by
  induction ts generalizing s with
  | nil =>
    cases h
    exact hs
  | cons t ts ih =>
    obtain ⟨u, hu, h⟩ := Option.bind_eq_some_iff.1 h
    exact ih (fits_step hs hu) h

/-- **The data of JSON text is bare, made of tokens, and is not nested too deep to be read.** -/
theorem legible {text : String} (h : Node.ofJsonText? text = some n) : Legible depthLimit n := by
  obtain ⟨ts, -, h⟩ := Option.bind_eq_some_iff.1 h
  unfold ofTokens? at h
  split at h
  · rename_i hrun
    cases h
    have hstart : Fits .start := ⟨trivial, nofun⟩
    exact (fits_run hstart hrun).result n rfl
  · cases h

end JsonReader

end TypedRequests
