import TypedRequests.Proofs.References
import TypedRequests.Proofs.SchemaFields
import TypedRequests.Proofs.Telling

/-!
# Where typed data comes from

What is read of a list, a map or a record is read of its items, of its values and of the values of
its fields.

* `Node.FieldValue`, `Node.MapValue`, `Node.Items` : the parts of data, behind any tags.
* `readRecord_induction` : what holds of a record when every field that is set keeps it.
* `readPairs_value`, `readList_items` : the parts that maps and lists are read of.
* `Node.Lists`, `Document.lists_of_named` : the listed values of a named schema.
-/

set_option autoImplicit false

namespace TypedRequests

/-! ## Parts of data -/

namespace Node

/-- The first node holds the second one as the value of a field: under its key, or in its place
where a record may be a list. -/
inductive FieldValue (rules : Rules) (form : RecordForm) (field : String) : Node → Node → Prop where
  | entry {es : List (Leaf × Node)} {k : Leaf} {m : Node} (he : (k, m) ∈ es)
      (hkey : rules.key k = .ok field) : FieldValue rules form field (.record es) m
  | place {ns : List Node} {need : Need} {m : Node} (hrules : rules.positional = true)
      (hm : ((field, need), m) ∈ form.fields.zip ns) : FieldValue rules form field (.list ns) m
  | tagged {n m : Node} (h : FieldValue rules form field n m) :
      FieldValue rules form field (.tagged n) m

/-- The first node holds the second one under a key. -/
inductive MapValue (rules : Rules) (key : String) : Node → Node → Prop where
  | entry {es : List (Leaf × Node)} {k : Leaf} {m : Node} (he : (k, m) ∈ es)
      (hkey : rules.key k = .ok key) : MapValue rules key (.record es) m
  | tagged {n m : Node} (h : MapValue rules key n m) : MapValue rules key (.tagged n) m

/-- The node is a list of the items; nothing at all is a list of none. -/
inductive Items : Node → List Node → Prop where
  | list (ns : List Node) : Items (.list ns) ns
  | blank {l : Leaf} (h : l.isBlank = true) : Items (.leaf l) []
  | tagged {n : Node} {ns : List Node} (h : Items n ns) : Items (.tagged n) ns

variable {rules : Rules} {form : RecordForm} {field key : String} {P : Leaf → Prop} {m n : Node}
  {ns : List Node}

theorem FieldValue.all (h : FieldValue rules form field n m) (hn : n.All P) : m.All P := by
  induction h with
  | entry he _ =>
    cases hn with
    | record _ hes => exact hes _ he
  | place _ hm =>
    cases hn with
    | list hns => exact hns _ (List.of_mem_zip hm).2
  | tagged _ ih =>
    cases hn with
    | tagged hn => exact ih hn

theorem MapValue.all (h : MapValue rules key n m) (hn : n.All P) : m.All P := by
  induction h with
  | entry he _ =>
    cases hn with
    | record _ hes => exact hes _ he
  | tagged _ ih =>
    cases hn with
    | tagged hn => exact ih hn

theorem Items.all (h : Items n ns) (hn : n.All P) : ∀ m ∈ ns, m.All P := by
  induction h with
  | list ns =>
    cases hn with
    | list hns => exact hns
  | blank _ => exact nofun
  | tagged _ ih =>
    cases hn with
    | tagged hn => exact ih hn

end Node

open Node

/-! ## Records -/

section Records

variable {σ : Type} {rules : Rules} {form : RecordForm} {P : σ → Prop} {n : Node} {draft result : σ}
  {set : String → Node → σ → Except ReadError σ}

/-- The invariant of the fields of a record, given by their keys. -/
theorem readFields_induction {es : List (Leaf × Node)} {given : List String}
    (hset : ∀ field m s s', FieldValue rules form field (.record es) m → P s →
      set field m s = .ok s' → P s')
    (hdraft : P draft) (h : readFields rules form set es given draft = .ok result) : P result := by
  induction es generalizing given draft with
  | nil =>
    obtain ⟨_, -, hresult⟩ := bind_eq_ok.1 h
    cases hresult
    exact hdraft
  | cons e es ih =>
    obtain ⟨k, m⟩ := e
    have hrest : ∀ field m s s', FieldValue rules form field (.record es) m → P s →
        set field m s = .ok s' → P s' := by
      intro field m s s' hm
      cases hm with
      | entry he hkey => exact hset field m s s' (.entry (List.mem_cons_of_mem _ he) hkey)
    rw [readFields] at h
    obtain ⟨name, hname, h⟩ := bind_eq_ok.1 h
    split at h
    · obtain ⟨_, -, h⟩ := bind_eq_ok.1 h
      obtain ⟨s, hs, h⟩ := bind_eq_ok.1 h
      exact ih hrest (hset name m draft s (.entry (List.mem_cons_self ..) hname) hdraft hs) h
    · exact ih hrest hdraft h

/-- The invariant of the fields of a record, given in their order. -/
theorem readPositions_induction {length : Nat} {fields : List (String × Need)} {ns : List Node}
    (hset : ∀ field need m s s', ((field, need), m) ∈ fields.zip ns → P s →
      set field m s = .ok s' → P s')
    (hdraft : P draft) (h : readPositions rules form length set fields ns draft = .ok result) :
    P result := by
  induction ns generalizing fields draft with
  | nil =>
    cases fields with
    | nil =>
      cases h
      exact hdraft
    | cons f fields =>
      obtain ⟨_, -, hresult⟩ := bind_eq_ok.1 h
      cases hresult
      exact hdraft
  | cons m ns ih =>
    cases fields with
    | nil => cases h
    | cons f fields =>
      obtain ⟨s, hs, h⟩ := bind_eq_ok.1 h
      refine ih (fun field need m s s' hm => ?_) (hset f.1 f.2 m draft s ?_ hdraft hs) h
      · exact hset field need m s s' (List.mem_cons_of_mem _ hm)
      · exact List.mem_cons_self ..

/-- **What holds at first, and is kept when the value of a field is set, holds of the record.** -/
@[elab_as_elim]
theorem readRecord_induction
    (hset : ∀ field m s s', FieldValue rules form field n m → P s → set field m s = .ok s' → P s')
    (hdraft : P draft) (h : readRecord rules form set draft n = .ok result) : P result := by
  induction n using induction with
  | hleaf l =>
    rw [readRecord] at h
    split at h
    · obtain ⟨_, -, hresult⟩ := bind_eq_ok.1 h
      cases hresult
      exact hdraft
    · exact absurd h (wrongLeaf_ne_ok _ _)
  | hlist ns _ =>
    rw [readRecord] at h
    split at h
    · exact readPositions_induction (fun field need m s s' hm => hset field m s s' (.place ‹_› hm))
        hdraft h
    · cases h
  | hrecord es _ => exact readFields_induction hset hdraft h
  | htagged n ih => exact ih (fun field m s s' hm => hset field m s s' (.tagged hm)) h

end Records

/-! ## Maps and lists -/

section Parts

variable {α : Type} {rules : Rules} {read : Node → Except ReadError α} {n : Node}

theorem readEntries_value {es : List (Leaf × Node)} {ps : List (String × α)} {p : String × α}
    (h : readEntries rules read es = .ok ps) (hp : p ∈ ps) :
    ∃ k m, (k, m) ∈ es ∧ rules.key k = .ok p.1 ∧ read m = .ok p.2 := by
  induction es generalizing ps with
  | nil =>
    cases h
    cases hp
  | cons e es ih =>
    obtain ⟨k, m⟩ := e
    obtain ⟨name, hname, a, ha, qs, hqs, rfl⟩ := readEntries_cons_eq_ok.1 h
    rcases List.mem_cons.1 hp with rfl | hp
    · exact ⟨k, m, List.mem_cons_self .., hname, ha⟩
    · obtain ⟨k', m', hmem, hread⟩ := ih hqs hp
      exact ⟨k', m', List.mem_cons_of_mem _ hmem, hread⟩

/-- **The values of a map are read of the values under their keys.** -/
theorem readPairs_value {ps : List (String × α)} {p : String × α}
    (h : readPairs rules read n = .ok ps) (hp : p ∈ ps) :
    ∃ m, MapValue rules p.1 n m ∧ read m = .ok p.2 := by
  induction n using induction with
  | hleaf l =>
    rw [readPairs] at h
    split at h
    · cases h
      cases hp
    · exact absurd h (wrongLeaf_ne_ok _ _)
  | hlist ns _ => cases h
  | hrecord es _ =>
    obtain ⟨k, m, hmem, hkey, hread⟩ := readEntries_value h hp
    exact ⟨m, .entry hmem hkey, hread⟩
  | htagged n ih =>
    obtain ⟨m, hm, hread⟩ := ih h
    exact ⟨m, .tagged hm, hread⟩

theorem readMap_value {values : OrderedMap String α} {p : String × α}
    (h : readMap rules read n = .ok values) (hp : p ∈ values.entries) :
    ∃ m, MapValue rules p.1 n m ∧ read m = .ok p.2 := by
  obtain ⟨ps, hps, rfl⟩ := map_eq_ok.1 h
  exact readPairs_value hps (Entries.mem_of_mem_ofPairs hp)

theorem readEach_items {ns : List Node} {as : List α} (h : readEach read ns = .ok as) :
    List.Forall₂ (fun m a => read m = .ok a) ns as := by
  induction ns generalizing as with
  | nil =>
    cases h
    exact .nil
  | cons m ns ih =>
    obtain ⟨a, ha, bs, hbs, rfl⟩ := readEach_cons_eq_ok.1 h
    exact .cons ha (ih hbs)

/-- **The values of a list are read of its items, one by one.** -/
theorem readList_items {as : List α} (h : readList rules read n = .ok as) :
    ∃ ns, n.Items ns ∧ List.Forall₂ (fun m a => read m = .ok a) ns as := by
  induction n using induction with
  | hleaf l =>
    rw [readList] at h
    split at h
    · rename_i hblank
      cases h
      exact ⟨[], .blank (Bool.and_eq_true_iff.1 hblank).2, .nil⟩
    · exact absurd h (wrongLeaf_ne_ok _ _)
  | hlist ns _ => exact ⟨ns, .list ns, readEach_items h⟩
  | hrecord es _ => cases h
  | htagged n ih =>
    obtain ⟨ns, hns, hread⟩ := ih h
    exact ⟨ns, .tagged hns, hread⟩

theorem readOption_eq_some {a : α} (h : readOption read n = .ok (some a)) : read n = .ok a := by
  unfold readOption at h
  split at h
  · cases h
  · obtain ⟨b, hb, hsome⟩ := map_eq_ok.1 h
    cases hsome
    exact hb

end Parts

/-! ## Listed values of named schemas -/

namespace OpenApi

variable {rules : Rules} {n : Node}

/-- The listed values of a schema are read of the field `enum`. -/
theorem Schema.enumValues_of_read {s : Schema} (h : Schema.read rules n = .ok s) :
    ∀ vs, s.enumValues = some vs →
      ∃ m, FieldValue rules Schema.form "enum" n m ∧ readList rules readEnumValue m = .ok vs := by
  rw [Schema.read_eq_readRecord] at h
  refine readRecord_induction ?_ (fun _ hnone => by cases hnone) h
  intro field m s s' hm hs hset vs hvs
  unfold Schema.set Schema.setField at hset
  split at hset
  case h_6 =>
    obtain ⟨v, hv, rfl⟩ := map_eq_ok.1 hset
    exact ⟨m, hm, readOption_eq_some (hv.trans (congrArg _ hvs))⟩
  case h_10 =>
    cases hset
    exact hs vs hvs
  all_goals
    obtain ⟨v, -, rfl⟩ := map_eq_ok.1 hset
    exact hs vs hvs

/-- The schemas of components are read of the field `schemas`. -/
theorem Components.schemas_of_read {c : Components} (h : Components.read rules n = .ok c) :
    ∀ schemas, c.schemas = some schemas →
      ∃ m, FieldValue rules Components.form "schemas" n m ∧
        readMap rules (Schema.read rules) m = .ok schemas := by
  refine readRecord_induction ?_ (fun _ hnone => by cases hnone) h
  intro field m c c' hm hc hset schemas hschemas
  split at hset
  · obtain ⟨v, hv, rfl⟩ := map_eq_ok.1 hset
    exact ⟨m, hm, readOption_eq_some (hv.trans (congrArg _ hschemas))⟩
  · obtain ⟨v, -, rfl⟩ := map_eq_ok.1 hset
    exact hc schemas hschemas
  · cases hset
    exact hc schemas hschemas

/-- The components of a document are read of the field `components`. -/
theorem Document.components_of_read {d : Document} (h : Document.read rules n = .ok d) :
    ∀ c, d.components = some c →
      ∃ m, FieldValue rules Document.form "components" n m ∧ Components.read rules m = .ok c := by
  refine readRecord_induction ?_ (fun _ hnone => by cases hnone) h
  intro field m d d' hm hd hset c hc
  unfold Document.setField at hset
  split at hset
  case h_4 =>
    obtain ⟨v, hv, rfl⟩ := map_eq_ok.1 hset
    exact ⟨m, hm, readOption_eq_some (hv.trans (congrArg _ hc))⟩
  case h_6 =>
    cases hset
    exact hd c hc
  all_goals
    obtain ⟨v, -, rfl⟩ := map_eq_ok.1 hset
    exact hd c hc

end OpenApi

/-- The data of a document lists the items under `enum` in the schema that it names `key`. -/
inductive Node.Lists (rules : Rules) (key : String) : Node → List Node → Prop where
  | intro {data components schemas schema values : Node} {items : List Node}
      (hcomponents : FieldValue rules OpenApi.Document.form "components" data components)
      (hschemas : FieldValue rules OpenApi.Components.form "schemas" components schemas)
      (hschema : MapValue rules key schemas schema)
      (hvalues : FieldValue rules OpenApi.Schema.form "enum" schema values)
      (hitems : values.Items items) : Lists rules key data items

theorem Node.Lists.all {rules : Rules} {key : String} {data : Node} {items : List Node}
    {P : Leaf → Prop} (h : data.Lists rules key items) (hdata : data.All P) :
    ∀ n ∈ items, n.All P := by
  obtain ⟨hcomponents, hschemas, hschema, hvalues, hitems⟩ := h
  exact hitems.all (hvalues.all (hschema.all (hschemas.all (hcomponents.all hdata))))

namespace OpenApi

/-- **The listed values of a named schema are read of the items that the data lists for it.** -/
theorem Document.lists_of_named {rules : Rules} {data : Node} {d : Document}
    (h : Document.read rules data = .ok d) {key : String} {s : Schema}
    (hs : (key, s) ∈ d.namedSchemas) {vs : List EnumValue} (hvs : s.enumValues = some vs) :
    ∃ items, data.Lists rules key items ∧
      List.Forall₂ (fun n v => readEnumValue n = .ok v) items vs := by
  obtain ⟨c, schemas, hc, hschemas, hmem⟩ : ∃ c schemas, d.components = some c ∧
      c.schemas = some schemas ∧ (key, s) ∈ schemas.entries := by
    unfold namedSchemas schemas? at hs
    cases hc : d.components with
    | none =>
      rw [hc] at hs
      cases hs
    | some c =>
      rw [hc] at hs
      cases hschemas : c.schemas.filter fun m => !m.isEmpty with
      | none =>
        simp only [hschemas] at hs
        cases hs
      | some schemas =>
        simp only [hschemas] at hs
        exact ⟨c, schemas, rfl, (Option.filter_eq_some_iff.1 hschemas).1, hs⟩
  obtain ⟨_, hcomponents, hread⟩ := components_of_read h c hc
  obtain ⟨_, hfield, hread⟩ := Components.schemas_of_read hread schemas hschemas
  obtain ⟨_, hschema, hread⟩ := readMap_value hread hmem
  obtain ⟨_, hvalues, hread⟩ := Schema.enumValues_of_read hread vs hvs
  obtain ⟨items, hitems, hread⟩ := readList_items hread
  exact ⟨items, .intro hcomponents hfield hschema hvalues hitems, hread⟩

end OpenApi

end TypedRequests
