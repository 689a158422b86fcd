import TypedRequests.Proofs.JsonData
import TypedRequests.Proofs.ParameterEntries

/-!
# Reading data and reading its value

Data that is read as something is read as the same from its value, although the value has each key
only once.

* `Node.Told` : a value that tells all of some data but for repeated keys.
* `Carries` : what is read of the data is read of the value.
* `carries_readOption`, `carries_readList`, `carries_readMap`, `carries_readRecord` : the parts of
  typed data.
* `Schema.carries_read`, `PathItem.carries_read`, `Document.carries_read` : schemas, path items and
  documents.
-/

set_option autoImplicit false

namespace TypedRequests

/-! ## Entries with a property of their keys -/

namespace Entries

variable {κ α : Type} [DecidableEq κ] (p : κ → Bool)

theorem filter_put (key : κ) (value : α) (es : List (κ × α)) :
    (put key value es).filter (fun e => p e.1) =
      if p key then put key value (es.filter fun e => p e.1) else es.filter fun e => p e.1 := by
  induction es with
  | nil => cases h : p key <;> simp [put, h]
  | cons e es ih =>
    obtain ⟨k, v⟩ := e
    by_cases hk : k = key
    · subst hk
      cases h : p k <;> simp [put, h]
    · cases h : p k <;> cases h' : p key <;> simp [put, hk, h, h', ih]

/-- **Keys that are left out can be left out before**, or after. -/
theorem filter_ofPairs (es : List (κ × α)) :
    (ofPairs es).filter (fun e => p e.1) = ofPairs (es.filter fun e => p e.1) := by
  suffices ∀ m : List (κ × α), (es.foldl (fun m e => put e.1 e.2 m) m).filter (fun e => p e.1) =
      (es.filter fun e => p e.1).foldl (fun m e => put e.1 e.2 m) (m.filter fun e => p e.1) from
    this []
  induction es with
  | nil => exact fun m => rfl
  | cons e es ih =>
    intro m
    rw [List.foldl_cons, ih, filter_put, List.filter_cons]
    split <;> rfl

end Entries

/-! ## Parts of data -/

namespace Node

/-- The items of a list, and the values in a record. -/
def parts : Node → List Node
  | list ns => ns
  | record es => es.map Prod.snd
  | _ => []

/-- The values in a record. -/
def memberParts : Node → List Node
  | record es => es.map Prod.snd
  | _ => []

/-- The values of a field in a record, and the items in its place. -/
def fieldParts (form : RecordForm) (field : String) : Node → List Node
  | record es => (es.filter fun e => e.1.text == some field).map Prod.snd
  | list ns => ((form.fields.zip ns).filter fun e => e.1.1 == field).map Prod.snd
  | _ => []

variable {form : RecordForm} {field : String} {m n : Node}

theorem mem_parts_of_memberParts (h : m ∈ n.memberParts) : m ∈ n.parts := by
  cases n with
  | record es => exact h
  | _ => cases h

theorem mem_parts_of_fieldParts (h : m ∈ n.fieldParts form field) : m ∈ n.parts := by
  cases n with
  | list ns =>
    obtain ⟨⟨f, _⟩, he, rfl⟩ := List.mem_map.1 h
    exact (List.of_mem_zip (List.mem_of_mem_filter he)).2
  | record es =>
    obtain ⟨e, he, rfl⟩ := List.mem_map.1 h
    exact List.mem_map_of_mem (List.mem_of_mem_filter he)
  | _ => cases h

theorem mem_fieldParts_record {es : List (Leaf × Node)} {e : Leaf × Node} (he : e ∈ es)
    (htext : e.1.text = some field) : e.2 ∈ (record es).fieldParts form field :=
  List.mem_map.2 ⟨e, List.mem_filter.2 ⟨he, beq_iff_eq.2 htext⟩, rfl⟩

theorem mem_fieldParts_list {ns : List Node} {f : String × Need}
    (h : (f, m) ∈ form.fields.zip ns) : m ∈ (list ns).fieldParts form f.1 :=
  List.mem_map.2 ⟨_, List.mem_filter.2 ⟨h, beq_iff_eq.2 rfl⟩, rfl⟩

/-- Induction on the parts of data. -/
theorem parts_induction {P : Node → Prop} (h : ∀ n, (∀ m ∈ n.parts, P m) → P n) (n : Node) :
    P n := by
  induction n using induction with
  | hleaf l => exact h _ nofun
  | hlist ns ih => exact h _ ih
  | hrecord es ih => exact h _ (List.forall_mem_map.2 ih)
  | htagged n => exact h _ nofun

end Node

/-! ## Values that tell all -/

namespace Node

/-- The value tells all of the data, but for repeated keys. -/
structure Told (n : Node) (v : Json) : Prop where
  value : n.HasValue v
  bare : n.bare = n
  finite : ∀ s ∈ n.scalars, s.finite = s

/-- The entry has the name and the value, which tells all of it. -/
def EntryTold (e : Leaf × Node) (m : String × Json) : Prop :=
  e.1 = .string m.1 ∧ e.2.Told m.2

namespace Told

variable {v : Json}

/-- A scalar is its value. -/
theorem of_leaf {l : Leaf} (h : Told (leaf l) v) : Node.ofJson v = leaf l :=
  ofJson_of_plain h.value h.bare rfl h.finite

theorem of_list {ns : List Node} (h : Told (list ns) v) :
    ∃ vs, List.Forall₂ Told ns vs ∧ v = .array vs := by
  obtain ⟨vs, hvs, rfl⟩ := hasValue_list.1 h.value
  refine ⟨vs, forall₂_of_mem_left hvs fun n hn v hv => ⟨hv, bare_items h.bare n hn, ?_⟩, rfl⟩
  exact fun s hs => h.finite s (mem_itemsScalars.2 ⟨n, hn, hs⟩)

theorem of_record {es : List (Leaf × Node)} (h : Told (record es) v) :
    ∃ ms, List.Forall₂ EntryTold es ms ∧ v = .object (Entries.ofPairs ms) := by
  obtain ⟨ms, hms, rfl⟩ := hasValue_record.1 h.value
  refine ⟨ms, forall₂_of_mem_left hms fun e he m hm => ?_, rfl⟩
  obtain ⟨hkey, hbare⟩ := bare_entries h.bare e he
  exact ⟨key_eq_string hkey hm.1, hm.2, hbare,
    fun s hs => h.finite s (mem_entriesScalars.2 ⟨e, he, hs⟩)⟩

theorem not_tagged {n : Node} : ¬ Told (tagged n) v :=
  fun h => not_hasValue_tagged h.value

end Told

end Node

open Node

/-- What is read of the data is read of a value that tells all of it. -/
def Carries {α : Type} (read : Node → Except ReadError α) (n : Node) : Prop :=
  ∀ v a, n.Told v → read n = .ok a → read (.ofJson v) = .ok a

section Parts

variable {α β σ : Type} {rules : Rules} {read : Node → Except ReadError α} {n : Node}

theorem carries_leaf (l : Leaf) : Carries read (.leaf l) := by
  intro v a hv ha
  rwa [hv.of_leaf]

/-- What is never read of a list or record is only read of scalars. -/
theorem carries_of_scalar (hlist : ∀ ns a, read (.list ns) ≠ .ok a)
    (hrecord : ∀ es a, read (.record es) ≠ .ok a) (n : Node) : Carries read n := by
  intro v a hv ha
  cases n with
  | leaf l => exact carries_leaf l v a hv ha
  | list ns => exact absurd ha (hlist ns a)
  | record es => exact absurd ha (hrecord es a)
  | tagged n => exact absurd hv Told.not_tagged

theorem Carries.map (h : Carries read n) (f : α → β) : Carries (fun n => (read n).map f) n := by
  intro v b hv hb
  obtain ⟨a, ha, rfl⟩ := map_eq_ok.1 hb
  exact map_eq_ok.2 ⟨a, h v a hv ha, rfl⟩

theorem carries_readText (rules : Rules) (n : Node) : Carries (readText rules) n :=
  carries_of_scalar nofun nofun n

theorem carries_readBool (n : Node) : Carries readBool n :=
  carries_of_scalar nofun nofun n

theorem carries_readOption (h : Carries read n) : Carries (readOption read) n := by
  intro v a hv ha
  cases n with
  | leaf l => exact carries_leaf l v a hv ha
  | list ns =>
    obtain ⟨vs, -, rfl⟩ := hv.of_list
    exact h.map some _ _ hv ha
  | record es =>
    obtain ⟨ms, -, rfl⟩ := hv.of_record
    exact h.map some _ _ hv ha
  | tagged n => exact absurd hv Told.not_tagged

theorem readEach_told {ns : List Node} {vs : List Json} {as : List α}
    (hv : List.Forall₂ Told ns vs) (h : ∀ n ∈ ns, Carries read n)
    (has : readEach read ns = .ok as) : readEach read (itemsOfJson vs) = .ok as := by
  induction hv generalizing as with
  | nil => exact has
  | cons hnv _ ih =>
    obtain ⟨hfirst, hrest⟩ := List.forall_mem_cons.1 h
    obtain ⟨a, ha, bs, hbs, rfl⟩ := readEach_cons_eq_ok.1 has
    exact readEach_cons_eq_ok.2 ⟨a, hfirst _ a hnv ha, bs, ih hrest hbs, rfl⟩

theorem carries_readList (h : ∀ m ∈ n.parts, Carries read m) :
    Carries (readList rules read) n := by
  intro v as hv has
  cases n with
  | leaf l => exact carries_leaf l v as hv has
  | list ns =>
    obtain ⟨vs, hvs, rfl⟩ := hv.of_list
    exact readEach_told hvs h has
  | record es => cases has
  | tagged n => exact absurd hv Told.not_tagged

theorem readEntries_told {es : List (Leaf × Node)} {ms : List (String × Json)}
    {rs : List (String × α)} (hv : List.Forall₂ EntryTold es ms)
    (h : ∀ e ∈ es, Carries read e.2)
    (hrs : readEntries rules read es = .ok rs) :
    Entries.Alike (fun v a => read (.ofJson v) = .ok a) ms rs := by
  induction hv generalizing rs with
  | nil =>
    cases hrs
    exact .nil
  | @cons e m es ms hem _ ih =>
    obtain ⟨k, n⟩ := e
    obtain ⟨name, v⟩ := m
    obtain ⟨rfl, htold⟩ : k = .string name ∧ n.Told v := hem
    obtain ⟨_, hname, a, ha, qs, hqs, rfl⟩ := readEntries_cons_eq_ok.1 hrs
    obtain rfl := Except.ok.inj ((rules.key_string name).symm.trans hname)
    obtain ⟨hfirst, hrest⟩ := List.forall_mem_cons.1 h
    exact .cons ⟨rfl, hfirst v a htold ha⟩ (ih hrest hqs)

theorem readEntries_of_alike {ms : List (String × Json)} {rs : List (String × α)}
    (h : Entries.Alike (fun v a => read (.ofJson v) = .ok a) ms rs) :
    readEntries rules read (entriesOfJson ms) = .ok rs := by
  induction h with
  | nil => rfl
  | @cons m r ms rs hmr _ ih =>
    obtain ⟨name, v⟩ := m
    obtain ⟨name', a⟩ := r
    obtain ⟨rfl, ha⟩ : name = name' ∧ read (.ofJson v) = .ok a := hmr
    exact readEntries_cons_eq_ok.2 ⟨name, rules.key_string name, a, ha, rs, ih, rfl⟩

theorem wrongLeaf_ne_ok (l : Leaf) (wanted : Wanted) {a : α} : wrongLeaf l wanted ≠ .ok a := by
  unfold wrongLeaf
  split <;> exact nofun

/-- **The entries of a map are read of its value once for each key.** -/
theorem readPairs_told {v : Json} {rs : List (String × α)} (hv : n.Told v)
    (h : ∀ m ∈ n.memberParts, Carries read m) (hrs : readPairs rules read n = .ok rs) :
    readPairs rules read (.ofJson v) = .ok (Entries.ofPairs rs) := by
  cases n with
  | leaf l =>
    rw [hv.of_leaf]
    unfold readPairs at hrs ⊢
    split at hrs
    · rename_i hblank
      cases hrs
      rw [if_pos hblank]
      rfl
    · exact absurd hrs (wrongLeaf_ne_ok l .map)
  | list ns => cases hrs
  | record es =>
    obtain ⟨ms, hms, rfl⟩ := hv.of_record
    exact readEntries_of_alike
      (readEntries_told hms (fun e he => h _ (List.mem_map_of_mem he)) hrs).ofPairs
  | tagged n => exact absurd hv Told.not_tagged

theorem carries_readMap (h : ∀ m ∈ n.memberParts, Carries read m) :
    Carries (readMap rules read) n := by
  intro v a hv ha
  obtain ⟨rs, hrs, rfl⟩ := map_eq_ok.1 ha
  refine map_eq_ok.2 ⟨_, readPairs_told hv h hrs, ?_⟩
  exact OrderedMap.ext_entries (Entries.ofPairs_ofPairs rs)

/-! ## Records -/

variable {form : RecordForm} {set : String → Node → σ → Except ReadError σ}

/-- Fields are read alike of the data and of the values, key by key. -/
theorem readFields_told {es : List (Leaf × Node)} {ms : List (String × Json)}
    {given : List String} {a b : σ} (hv : List.Forall₂ EntryTold es ms)
    (h : ∀ e ∈ es, ∀ name, e.1.text = some name → ∀ a, Carries (fun n => set name n a) e.2)
    (hb : readFields rules form set es given a = .ok b) :
    readFields rules form set (entriesOfJson ms) given a = .ok b := by
  induction hv generalizing given a with
  | nil => exact hb
  | @cons e m es ms hem _ ih =>
    obtain ⟨k, n⟩ := e
    obtain ⟨name, v⟩ := m
    obtain ⟨rfl, htold⟩ : k = .string name ∧ n.Told v := hem
    obtain ⟨hfirst, hrest⟩ := List.forall_mem_cons.1 h
    obtain ⟨_, hname, hcases⟩ := readFields_cons_eq_ok.1 hb
    obtain rfl := Except.ok.inj ((rules.key_string name).symm.trans hname)
    refine readFields_cons_eq_ok.2 ⟨name, hname, ?_⟩
    rcases hcases with ⟨hfield, hfresh, c, hc, hb⟩ | ⟨hfield, hb⟩
    · exact .inl ⟨hfield, hfresh, c, hfirst name rfl a v c htold hc, ih hrest hb⟩
    · exact .inr ⟨hfield, ih hrest hb⟩

/-- Entries that are no fields are passed over. -/
theorem readFields_filter {ms : List (String × Json)} {given : List String} {a b : σ} :
    readFields rules form set (entriesOfJson (ms.filter fun m => form.hasField m.1)) given a =
        .ok b ↔
      readFields rules form set (entriesOfJson ms) given a = .ok b := by
  induction ms generalizing given a with
  | nil => rfl
  | cons m ms ih =>
    obtain ⟨name, v⟩ := m
    rw [List.filter_cons, entriesOfJson, readFields_cons_eq_ok]
    simp only [rules.key_string, Except.ok.injEq, exists_eq_left']
    cases hfield : form.hasField name with
    | true =>
      rw [if_pos rfl, entriesOfJson, readFields_cons_eq_ok]
      simp [rules.key_string, hfield, ih]
    | false => simp [ih]

/-- The fields that are read are different ones. -/
theorem nodup_of_readFields {ms : List (String × Json)} {given : List String} {a b : σ}
    (h : readFields rules form set (entriesOfJson ms) given a = .ok b) :
    (Entries.keys (ms.filter fun m => form.hasField m.1)).Nodup ∧
      ∀ name ∈ Entries.keys (ms.filter fun m => form.hasField m.1), name ∉ given := by
  induction ms generalizing given a with
  | nil => exact ⟨List.nodup_nil, nofun⟩
  | cons m ms ih =>
    obtain ⟨name, v⟩ := m
    obtain ⟨_, hname, hcases⟩ := readFields_cons_eq_ok.1 h
    obtain rfl := Except.ok.inj ((rules.key_string name).symm.trans hname)
    rcases hcases with ⟨hfield, hfresh, c, -, h⟩ | ⟨hfield, h⟩
    · obtain ⟨hnodup, hgiven⟩ := ih h
      rw [List.filter_cons, if_pos hfield]
      refine ⟨List.nodup_cons.2 ⟨fun hm => hgiven name hm (List.mem_cons_self ..), hnodup⟩,
        List.forall_mem_cons.2 ⟨hfresh, fun other hother hm => ?_⟩⟩
      exact hgiven other hother (List.mem_cons_of_mem _ hm)
    · rw [List.filter_cons, if_neg (by simp [hfield])]
      exact ih h

/-- **Of repeated keys only those are left that are no fields**, and which one does not matter. -/
theorem readFields_ofPairs {ms : List (String × Json)} {a b : σ}
    (h : readFields rules form set (entriesOfJson ms) [] a = .ok b) :
    readFields rules form set (entriesOfJson (Entries.ofPairs ms)) [] a = .ok b := by
  rw [← readFields_filter, Entries.filter_ofPairs form.hasField,
    Entries.ofPairs_of_nodup (nodup_of_readFields h).1, readFields_filter]
  exact h

theorem readPositions_told {length : Nat} {ns : List Node} {vs : List Json}
    {fields : List (String × Need)} {a b : σ} (hv : List.Forall₂ Told ns vs)
    (h : ∀ f m, (f, m) ∈ fields.zip ns → ∀ a, Carries (fun n => set f.1 n a) m)
    (hb : readPositions rules form length set fields ns a = .ok b) :
    readPositions rules form length set fields (itemsOfJson vs) a = .ok b := by
  induction hv generalizing fields a with
  | nil => exact hb
  | @cons n v ns vs hnv _ ih =>
    cases fields with
    | nil => cases hb
    | cons f fields =>
      obtain ⟨c, hc, hb⟩ := bind_eq_ok.1 hb
      exact bind_eq_ok.2 ⟨c, h f n (List.mem_cons_self ..) a v c hnv hc,
        ih (fun f m hm => h f m (List.mem_cons_of_mem _ hm)) hb⟩

/-- **A record is read alike of the data and of its value.** -/
theorem carries_readRecord (a : σ)
    (h : ∀ name, ∀ m ∈ n.fieldParts form name, ∀ a, Carries (fun n => set name n a) m) :
    Carries (readRecord rules form set a) n := by
  intro v b hv hb
  cases n with
  | leaf l => exact carries_leaf l v b hv hb
  | list ns =>
    obtain ⟨vs, hvs, rfl⟩ := hv.of_list
    unfold readRecord at hb
    rw [Node.ofJson, readRecord, length_itemsOfJson, ← hvs.length_eq]
    split at hb
    · rename_i hpositional
      rw [if_pos hpositional]
      exact readPositions_told hvs (fun f m hm => h f.1 m (mem_fieldParts_list hm)) hb
    · cases hb
  | record es =>
    obtain ⟨ms, hms, rfl⟩ := hv.of_record
    exact readFields_ofPairs
      (readFields_told hms (fun e he name ht => h name e.2 (mem_fieldParts_record he ht)) hb)
  | tagged n => exact absurd hv Told.not_tagged

end Parts

end TypedRequests
