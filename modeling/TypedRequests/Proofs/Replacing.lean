import TypedRequests.OpenApi.Document.Reading

/-!
# Data with another part

Data with another node in one place is read as before, but for what lies in this place.

* `Node.Replaced` : data with another node in one place, to which steps lead.
* `Node.Replaced.toJson` : the JSON value has another value in the same place.
* `readList_replaced`, `readEntries_replaced`, `readRecord_replaced` : what becomes of lists, of
  entries and of records.
-/

set_option autoImplicit false

namespace TypedRequests

open OpenApi

/-! ## Data with another node in one place -/

/-- A step from a node to a part of it. -/
inductive NodeStep where
  | key (name : String)
  | index (i : Nat)
deriving DecidableEq, Repr

/-- The second node is the first one with `e` in the place to which the steps lead. The step to a
repeated key leads to any of its values. -/
inductive Node.Replaced (e : Node) : List NodeStep → Node → Node → Prop where
  | here {n : Node} : Replaced e [] n e
  | item {steps : List NodeStep} {before after : List Node} {n n' : Node}
      (h : Replaced e steps n n') :
      Replaced e (.index before.length :: steps) (.list (before ++ n :: after))
        (.list (before ++ n' :: after))
  | member {steps : List NodeStep} {before after : List (Leaf × Node)} {name : String}
      {n n' : Node} (h : Replaced e steps n n') :
      Replaced e (.key name :: steps) (.record (before ++ (.string name, n) :: after))
        (.record (before ++ (.string name, n') :: after))

namespace Entries

variable {κ α : Type} [DecidableEq κ] {key : κ} {a a' : α}

theorem put_replaced (key : κ) (a a' : α) (m : List (κ × α)) : ∃ before after,
    put key a m = before ++ (key, a) :: after ∧ put key a' m = before ++ (key, a') :: after := by
  induction m with
  | nil => exact ⟨[], [], rfl, rfl⟩
  | cons e m ih =>
    obtain ⟨k, b⟩ := e
    by_cases h : k = key
    · exact ⟨[], m, by simp [put, h], by simp [put, h]⟩
    · obtain ⟨before, after, h₁, h₂⟩ := ih
      exact ⟨(k, b) :: before, after, by simp [put, h, h₁], by simp [put, h, h₂]⟩

/-- A further value counts alike after either value, and may take its place. -/
theorem put_of_replaced (j : κ) (b : α) (before after : List (κ × α)) :
    put j b (before ++ (key, a) :: after) = put j b (before ++ (key, a') :: after) ∨
      ∃ before' after', put j b (before ++ (key, a) :: after) = before' ++ (key, a) :: after' ∧
        put j b (before ++ (key, a') :: after) = before' ++ (key, a') :: after' := by
  induction before with
  | nil =>
    by_cases h : key = j
    · exact .inl (by simp [put, h])
    · exact .inr ⟨[], put j b after, by simp [put, h], by simp [put, h]⟩
  | cons e before ih =>
    obtain ⟨k, c⟩ := e
    by_cases h : k = j
    · exact .inr ⟨(k, b) :: before, after, by simp [put, h], by simp [put, h]⟩
    · rcases ih with ih | ⟨before', after', h₁, h₂⟩
      · exact .inl (by simp [put, h, ih])
      · exact .inr ⟨(k, c) :: before', after', by simp [put, h, h₁], by simp [put, h, h₂]⟩

theorem foldl_put_of_replaced (es before after : List (κ × α)) :
    es.foldl (fun m e => put e.1 e.2 m) (before ++ (key, a) :: after) =
        es.foldl (fun m e => put e.1 e.2 m) (before ++ (key, a') :: after) ∨
      ∃ before' after',
        es.foldl (fun m e => put e.1 e.2 m) (before ++ (key, a) :: after) =
            before' ++ (key, a) :: after' ∧
          es.foldl (fun m e => put e.1 e.2 m) (before ++ (key, a') :: after) =
            before' ++ (key, a') :: after' := by
  induction es generalizing before after with
  | nil => exact .inr ⟨before, after, rfl, rfl⟩
  | cons e es ih =>
    rw [List.foldl_cons, List.foldl_cons]
    rcases put_of_replaced e.1 e.2 before after with h | ⟨before', after', h₁, h₂⟩
    · exact .inl (by rw [h])
    · rw [h₁, h₂]
      exact ih before' after'

/-- **Another value for a key counts in the place of the old one**, or both are superseded. -/
theorem ofPairs_replaced (key : κ) (a a' : α) (before after : List (κ × α)) :
    ofPairs (before ++ (key, a) :: after) = ofPairs (before ++ (key, a') :: after) ∨
      ∃ before' after', ofPairs (before ++ (key, a) :: after) = before' ++ (key, a) :: after' ∧
        ofPairs (before ++ (key, a') :: after) = before' ++ (key, a') :: after' := by
  unfold ofPairs
  simp only [List.foldl_append, List.foldl_cons]
  obtain ⟨before', after', h₁, h₂⟩ :=
    put_replaced key a a' (before.foldl (fun m e => put e.1 e.2 m) [])
  rw [h₁, h₂]
  exact foldl_put_of_replaced after before' after'

end Entries

namespace Node

theorem itemsToJson?_append (ms ns : List Node) : itemsToJson? (ms ++ ns) =
    (itemsToJson? ms).bind fun vs => (itemsToJson? ns).map (vs ++ ·) := by
  induction ms with
  | nil => simp [itemsToJson?]
  | cons m ms ih =>
    simp only [List.cons_append, itemsToJson?, ih]
    cases m.toJson? <;> cases itemsToJson? ms <;> cases itemsToJson? ns <;> rfl

theorem itemsToJson?_cons_eq_some {n : Node} {ns : List Node} {vs : List Json} :
    itemsToJson? (n :: ns) = some vs ↔
      ∃ v vs', n.toJson? = some v ∧ itemsToJson? ns = some vs' ∧ v :: vs' = vs := by
  rw [itemsToJson?]
  cases n.toJson? <;> cases itemsToJson? ns <;> simp

theorem length_itemsToJson? {ns : List Node} {vs : List Json} (h : itemsToJson? ns = some vs) :
    vs.length = ns.length := by
  induction ns generalizing vs with
  | nil =>
    cases h
    rfl
  | cons n ns ih =>
    obtain ⟨v, vs', -, hvs, rfl⟩ := itemsToJson?_cons_eq_some.1 h
    rw [List.length_cons, List.length_cons, ih hvs]

theorem entriesToJson?_append (es fs : List (Leaf × Node)) : entriesToJson? (es ++ fs) =
    (entriesToJson? es).bind fun ms => (entriesToJson? fs).map (ms ++ ·) := by
  induction es with
  | nil => simp [entriesToJson?]
  | cons e es ih =>
    obtain ⟨k, n⟩ := e
    simp only [List.cons_append, entriesToJson?, ih]
    cases k.text <;> cases n.toJson? <;> cases entriesToJson? es <;> cases entriesToJson? fs <;> rfl

theorem entriesToJson?_cons_eq_some {name : String} {n : Node} {es : List (Leaf × Node)}
    {ms : List (String × Json)} : entriesToJson? ((.string name, n) :: es) = some ms ↔
      ∃ v ms', n.toJson? = some v ∧ entriesToJson? es = some ms' ∧ (name, v) :: ms' = ms := by
  rw [entriesToJson?, Leaf.string]
  cases n.toJson? <;> cases entriesToJson? es <;> simp

theorem itemsOfJson_append (vs ws : List Json) :
    itemsOfJson (vs ++ ws) = itemsOfJson vs ++ itemsOfJson ws := by
  induction vs with
  | nil => rfl
  | cons v vs ih => rw [List.cons_append, itemsOfJson, ih, itemsOfJson, List.cons_append]

theorem length_itemsOfJson (vs : List Json) : (itemsOfJson vs).length = vs.length := by
  induction vs with
  | nil => rfl
  | cons v vs ih => rw [itemsOfJson, List.length_cons, List.length_cons, ih]

theorem entriesOfJson_append (ms ls : List (String × Json)) :
    entriesOfJson (ms ++ ls) = entriesOfJson ms ++ entriesOfJson ls := by
  induction ms with
  | nil => rfl
  | cons m ms ih =>
    obtain ⟨name, v⟩ := m
    rw [List.cons_append, entriesOfJson, ih, entriesOfJson, List.cons_append]

variable {e : Node} {steps : List NodeStep} {n n' : Node}

/-- **The JSON value has another value in the same place**, or does not have the place. -/
theorem Replaced.toJson (h : Replaced e steps n n') {w v : Json} (he : e.toJson? = some w)
    (hv : n.toJson? = some v) : ∃ v', n'.toJson? = some v' ∧
      (v' = v ∨ Replaced (ofJson w) steps (ofJson v) (ofJson v')) := by
  induction h generalizing v with
  | here => exact ⟨w, he, .inr .here⟩
  | @item steps before after n n' _ ih =>
    simp only [toJson?, itemsToJson?_append, Option.map_eq_some_iff, Option.bind_eq_some_iff] at hv
    obtain ⟨_, ⟨ps, hps, _, hrest, rfl⟩, rfl⟩ := hv
    obtain ⟨u, qs, hu, hqs, rfl⟩ := itemsToJson?_cons_eq_some.1 hrest
    obtain ⟨u', hu', hreplaced⟩ := ih hu
    refine ⟨.array (ps ++ u' :: qs), ?_, ?_⟩
    · simp [toJson?, itemsToJson?_append, itemsToJson?, hps, hu', hqs]
    · rcases hreplaced with rfl | hreplaced
      · exact .inl rfl
      · refine .inr ?_
        rw [← length_itemsToJson? hps, ← length_itemsOfJson, ofJson, ofJson, itemsOfJson_append,
          itemsOfJson_append, itemsOfJson, itemsOfJson]
        exact .item hreplaced
  | @member steps before after name n n' _ ih =>
    simp only [toJson?, entriesToJson?_append, Option.map_eq_some_iff,
      Option.bind_eq_some_iff] at hv
    obtain ⟨_, ⟨ps, hps, _, hrest, rfl⟩, rfl⟩ := hv
    obtain ⟨u, qs, hu, hqs, rfl⟩ := entriesToJson?_cons_eq_some.1 hrest
    obtain ⟨u', hu', hreplaced⟩ := ih hu
    refine ⟨.object (Entries.ofPairs (ps ++ (name, u') :: qs)), ?_, ?_⟩
    · simp [toJson?, entriesToJson?_append, entriesToJson?, Leaf.string, hps, hu', hqs]
    · rcases hreplaced with rfl | hreplaced
      · exact .inl rfl
      · rcases Entries.ofPairs_replaced name u u' ps qs with h | ⟨before', after', h₁, h₂⟩
        · exact .inl (by rw [h])
        · refine .inr ?_
          rw [h₁, h₂, ofJson, ofJson, entriesOfJson_append, entriesOfJson_append, entriesOfJson,
            entriesOfJson]
          exact .member hreplaced

mutual

/-- What stands for a JSON value is readable. -/
theorem isSome_toJson?_ofJson : ∀ v : Json, (ofJson v).toJson?.isSome = true
  | .scalar s => by cases s <;> rfl
  | .array items => by simp [ofJson, toJson?, isSome_itemsToJson?_ofJson items]
  | .object members => by simp [ofJson, toJson?, isSome_entriesToJson?_ofJson members]

theorem isSome_itemsToJson?_ofJson : ∀ vs : List Json,
    (itemsToJson? (itemsOfJson vs)).isSome = true
  | [] => rfl
  | v :: vs => by
    obtain ⟨u, hu⟩ := Option.isSome_iff_exists.1 (isSome_toJson?_ofJson v)
    obtain ⟨us, hus⟩ := Option.isSome_iff_exists.1 (isSome_itemsToJson?_ofJson vs)
    simp [itemsOfJson, itemsToJson?, hu, hus]

theorem isSome_entriesToJson?_ofJson : ∀ ms : List (String × Json),
    (entriesToJson? (entriesOfJson ms)).isSome = true
  | [] => rfl
  | (name, v) :: ms => by
    obtain ⟨u, hu⟩ := Option.isSome_iff_exists.1 (isSome_toJson?_ofJson v)
    obtain ⟨us, hus⟩ := Option.isSome_iff_exists.1 (isSome_entriesToJson?_ofJson ms)
    simp [entriesOfJson, entriesToJson?, Leaf.string, hu, hus]

end

end Node

/-! ## Lists and maps -/

section Lists

variable {α : Type} {rules : Rules} {read : Node → Except ReadError α} {n n' : Node}

theorem readEach_cons_eq_ok {ns : List Node} {as : List α} : readEach read (n :: ns) = .ok as ↔
    ∃ a, read n = .ok a ∧ ∃ bs, readEach read ns = .ok bs ∧ a :: bs = as := by
  rw [readEach, bind_eq_ok]
  simp only [bind_eq_ok, pure, Except.pure, Except.ok.injEq]

/-- A list with another item is read as before, but for this item. -/
theorem readEach_replaced {a' : α} (hread : read n' = .ok a') {before after : List Node}
    {as : List α} (h : readEach read (before ++ n :: after) = .ok as) :
    readEach read (before ++ n' :: after) = .ok (as.set before.length a') := by
  induction before generalizing as with
  | nil =>
    obtain ⟨a, -, cs, hcs, rfl⟩ := readEach_cons_eq_ok.1 h
    exact readEach_cons_eq_ok.2 ⟨a', hread, cs, hcs, rfl⟩
  | cons b before ih =>
    obtain ⟨a, ha, cs, hcs, rfl⟩ := readEach_cons_eq_ok.1 h
    exact readEach_cons_eq_ok.2 ⟨a, ha, _, ih hcs, rfl⟩

theorem readList_replaced {e : Node} {a' : α} (hread : read e = .ok a') {i : Nat}
    (h : Node.Replaced e [.index i] n n') {as : List α} (has : readList rules read n = .ok as) :
    readList rules read n' = .ok (as.set i a') := by
  cases h with
  | item h =>
    cases h with
    | here => exact readEach_replaced hread has

theorem Rules.key_string (rules : Rules) (name : String) : rules.key (.string name) = .ok name := by
  unfold Rules.key Rules.textOf? Leaf.string
  cases rules.scalarText <;> rfl

theorem readEntries_cons_eq_ok {k : Leaf} {es : List (Leaf × Node)} {rs : List (String × α)} :
    readEntries rules read ((k, n) :: es) = .ok rs ↔ ∃ name, rules.key k = .ok name ∧
      ∃ a, read n = .ok a ∧ ∃ qs, readEntries rules read es = .ok qs ∧ (name, a) :: qs = rs := by
  rw [readEntries, bind_eq_ok]
  simp only [bind_eq_ok, pure, Except.pure, Except.ok.injEq]

/-- Entries with another value for a key have another result in the same place. -/
theorem readEntries_replaced {name : String} {before after : List (Leaf × Node)}
    {rs : List (String × α)}
    (h : readEntries rules read (before ++ (.string name, n) :: after) = .ok rs) :
    ∃ ps a qs, rs = ps ++ (name, a) :: qs ∧ read n = .ok a ∧ ∀ n' a', read n' = .ok a' →
      readEntries rules read (before ++ (.string name, n') :: after) =
        .ok (ps ++ (name, a') :: qs) := by
  induction before generalizing rs with
  | nil =>
    obtain ⟨_, hname, a, ha, qs, hqs, rfl⟩ := readEntries_cons_eq_ok.1 h
    obtain rfl := Except.ok.inj ((rules.key_string name).symm.trans hname)
    exact ⟨[], a, qs, rfl, ha, fun n' a' ha' =>
      readEntries_cons_eq_ok.2 ⟨name, hname, a', ha', qs, hqs, rfl⟩⟩
  | cons b before ih =>
    obtain ⟨name', hname, b', hb, _, hrest, rfl⟩ := readEntries_cons_eq_ok.1 h
    obtain ⟨ps, a, qs, rfl, ha, hreplaced⟩ := ih hrest
    exact ⟨(name', b') :: ps, a, qs, rfl, ha, fun n' a' ha' =>
      readEntries_cons_eq_ok.2 ⟨name', hname, b', hb, _, hreplaced n' a' ha', rfl⟩⟩

end Lists

/-! ## Records -/

/-- The step leads to the value of a field, by its name or by its place. -/
def RecordForm.StepsTo (form : RecordForm) (field : String) (s : NodeStep) : Prop :=
  s = .key field ∨ ∃ i, s = .index i ∧ (form.fields.map Prod.fst)[i]? = some field

section Records

variable {σ : Type} {rules : Rules} {form : RecordForm}
  {set : String → Node → σ → Except ReadError σ} {f : σ → σ} {field : String}

/-- The change of a draft commutes with the other fields. -/
def CommutesBesides (set : String → Node → σ → Except ReadError σ) (f : σ → σ) (field : String) :
    Prop :=
  ∀ name n a b, name ≠ field → set name n a = .ok b → set name n (f a) = .ok (f b)

/-- The first entry is a field, which was not given before, or it is passed over. -/
theorem readFields_cons_eq_ok {k : Leaf} {n : Node} {es : List (Leaf × Node)} {given : List String}
    {a b : σ} : readFields rules form set ((k, n) :: es) given a = .ok b ↔
      ∃ name, rules.key k = .ok name ∧
        (form.hasField name = true ∧ name ∉ given ∧
            (∃ c, set name n a = .ok c ∧ readFields rules form set es (name :: given) c = .ok b) ∨
          form.hasField name = false ∧ readFields rules form set es given a = .ok b) := by
  rw [readFields, bind_eq_ok]
  refine exists_congr fun name => and_congr_right fun _ => ?_
  cases form.hasField name with
  | false => simp
  | true =>
    by_cases hgiven : name ∈ given
    · simp [RecordForm.checkFresh, hgiven, bind, Except.bind]
    · simp [RecordForm.checkFresh, hgiven, bind_eq_ok]

/-- The field was given, so that only others can follow. -/
theorem readFields_of_given (hf : CommutesBesides set f field) {es : List (Leaf × Node)}
    {given : List String} (hgiven : field ∈ given) {a b : σ}
    (h : readFields rules form set es given a = .ok b) :
    readFields rules form set es given (f a) = .ok (f b) := by
  induction es generalizing given a with
  | nil =>
    obtain ⟨u, hu, hb⟩ := bind_eq_ok.1 h
    cases hb
    exact bind_eq_ok.2 ⟨u, hu, rfl⟩
  | cons e es ih =>
    obtain ⟨k, n⟩ := e
    obtain ⟨name, hname, ⟨hfield, hfresh, c, hc, h⟩ | ⟨hfield, h⟩⟩ := readFields_cons_eq_ok.1 h
    · have hne : name ≠ field := fun he => hfresh (he ▸ hgiven)
      exact readFields_cons_eq_ok.2 ⟨name, hname, .inl ⟨hfield, hfresh, f c, hf name n a c hne hc,
        ih (List.mem_cons_of_mem _ hgiven) h⟩⟩
    · exact readFields_cons_eq_ok.2 ⟨name, hname, .inr ⟨hfield, ih hgiven h⟩⟩

theorem readFields_replaced (hf : CommutesBesides set f field) (hform : form.hasField field = true)
    {n n' : Node}
    (hset : ∀ a b, set field n a = .ok b → set field n' a = .ok b ∨ set field n' a = .ok (f b))
    {before after : List (Leaf × Node)} {given : List String} {a b : σ}
    (h : readFields rules form set (before ++ (.string field, n) :: after) given a = .ok b) :
    readFields rules form set (before ++ (.string field, n') :: after) given a = .ok b ∨
      readFields rules form set (before ++ (.string field, n') :: after) given a = .ok (f b) := by
  induction before generalizing given a with
  | nil =>
    obtain ⟨name, hname, h⟩ := readFields_cons_eq_ok.1 h
    obtain rfl := Except.ok.inj ((rules.key_string field).symm.trans hname)
    obtain ⟨-, hfresh, c, hc, h⟩ | ⟨hfield, -⟩ := h
    · rcases hset a c hc with hc | hc
      · exact .inl (readFields_cons_eq_ok.2 ⟨field, hname, .inl ⟨hform, hfresh, c, hc, h⟩⟩)
      · exact .inr (readFields_cons_eq_ok.2 ⟨field, hname, .inl ⟨hform, hfresh, f c, hc,
          readFields_of_given hf (List.mem_cons_self ..) h⟩⟩)
    · cases hform.symm.trans hfield
  | cons e before ih =>
    obtain ⟨k, m⟩ := e
    obtain ⟨name, hname, ⟨hfield, hfresh, c, hc, h⟩ | ⟨hfield, h⟩⟩ := readFields_cons_eq_ok.1 h
    · exact (ih h).imp
        (fun h => readFields_cons_eq_ok.2 ⟨name, hname, .inl ⟨hfield, hfresh, c, hc, h⟩⟩)
        (fun h => readFields_cons_eq_ok.2 ⟨name, hname, .inl ⟨hfield, hfresh, c, hc, h⟩⟩)
    · exact (ih h).imp (fun h => readFields_cons_eq_ok.2 ⟨name, hname, .inr ⟨hfield, h⟩⟩)
        (fun h => readFields_cons_eq_ok.2 ⟨name, hname, .inr ⟨hfield, h⟩⟩)

/-- The field is none of those that follow. -/
theorem readPositions_of_rest (hf : CommutesBesides set f field) {length : Nat}
    {fields : List (String × Need)} (hfields : field ∉ fields.map Prod.fst) {ns : List Node}
    {a b : σ} (h : readPositions rules form length set fields ns a = .ok b) :
    readPositions rules form length set fields ns (f a) = .ok (f b) := by
  induction fields generalizing ns a with
  | nil =>
    cases ns with
    | nil =>
      cases h
      rfl
    | cons n ns => cases h
  | cons p fields ih =>
    cases ns with
    | nil =>
      obtain ⟨u, hu, hb⟩ := bind_eq_ok.1 h
      cases hb
      exact bind_eq_ok.2 ⟨u, hu, rfl⟩
    | cons n ns =>
      obtain ⟨hp, hfields⟩ := not_or.1 (mt List.mem_cons.2 hfields)
      obtain ⟨a', ha', h⟩ := bind_eq_ok.1 h
      exact bind_eq_ok.2 ⟨f a', hf p.1 n a a' (Ne.symm hp) ha', ih hfields h⟩

theorem readPositions_replaced (hf : CommutesBesides set f field) {length : Nat} {n n' : Node}
    (hset : ∀ a b, set field n a = .ok b → set field n' a = .ok b ∨ set field n' a = .ok (f b))
    {fields : List (String × Need)} (hnodup : (fields.map Prod.fst).Nodup)
    {before after : List Node} (hfield : (fields.map Prod.fst)[before.length]? = some field)
    {a b : σ} (h : readPositions rules form length set fields (before ++ n :: after) a = .ok b) :
    readPositions rules form length set fields (before ++ n' :: after) a = .ok b ∨
      readPositions rules form length set fields (before ++ n' :: after) a = .ok (f b) := by
  induction before generalizing fields a with
  | nil =>
    cases fields with
    | nil => cases hfield
    | cons p fields =>
      obtain rfl := Option.some.inj hfield
      obtain ⟨hp, -⟩ := List.nodup_cons.1 hnodup
      obtain ⟨a', ha', h⟩ := bind_eq_ok.1 h
      rcases hset a a' ha' with ha' | ha'
      · exact .inl (bind_eq_ok.2 ⟨a', ha', h⟩)
      · exact .inr (bind_eq_ok.2 ⟨f a', ha', readPositions_of_rest hf hp h⟩)
  | cons m before ih =>
    cases fields with
    | nil => cases hfield
    | cons p fields =>
      obtain ⟨a', ha', h⟩ := bind_eq_ok.1 h
      rcases ih (List.nodup_cons.1 hnodup).2 hfield h with h | h
      · exact .inl (bind_eq_ok.2 ⟨a', ha', h⟩)
      · exact .inr (bind_eq_ok.2 ⟨a', ha', h⟩)

/-- **A record with another value for a field is read as before, but for this field.** -/
theorem readRecord_replaced {e : Node} {s : NodeStep} {steps : List NodeStep} {n n' : Node}
    (hf : CommutesBesides set f field) (hnodup : (form.fields.map Prod.fst).Nodup)
    (hs : form.StepsTo field s) (hform : form.hasField field = true)
    (hset : ∀ m m' : Node, Node.Replaced e steps m m' →
      ∀ a b, set field m a = .ok b → set field m' a = .ok b ∨ set field m' a = .ok (f b))
    (h : Node.Replaced e (s :: steps) n n') {a b : σ}
    (hread : readRecord rules form set a n = .ok b) :
    readRecord rules form set a n' = .ok b ∨ readRecord rules form set a n' = .ok (f b) := by
  rcases hs with rfl | ⟨i, rfl, hfield⟩
  · cases h with
    | member h => exact readFields_replaced hf hform (hset _ _ h) hread
  · cases h with
    | @item _ before after m m' h =>
      have hlength : (before ++ m' :: after).length = (before ++ m :: after).length := by simp
      unfold readRecord at hread ⊢
      split at hread
      · rename_i hpositional
        rw [if_pos hpositional, hlength]
        exact readPositions_replaced hf (hset _ _ h) hnodup hfield hread
      · cases hread

end Records

end TypedRequests
