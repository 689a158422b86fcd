import Mathlib.Data.List.Nodup
import TypedRequests.Proofs.FirstUse
import TypedRequests.Request.Endpoint

/-!
# Extraction partitions a document

The modules of a document share out its operations: each selected operation stands in the module of
its tag, once, and nothing else does.

* `PlacedOperation.BelongsTo` : the operation has a place in the module of a tag.
* `Extraction.Inv` : what holds of the modules after some of the selected operations, with
  `Extraction.start_inv`, `Extraction.step_inv` and, over a whole run, `Extraction.run_inv`.
* `Partition` : how modules share out the operations of a document.
* `extract_partitions` : extraction fails exactly without a usable path, and else partitions.
-/

set_option autoImplicit false

namespace TypedRequests.Request

open OpenApi

/-! ## The operations of a document -/

/-- Every operation of a document where it stands: paths in order, and methods as declared. -/
def placedOperations (d : Document) : List PlacedOperation :=
  d.paths.entries.flatMap fun e => e.2.operations.entries.map fun o => ⟨e.1, e.2, o.1, o.2⟩

/-- The path and method of an operation, which tell it from all others of its document. -/
def PlacedOperation.place (p : PlacedOperation) : String × Method :=
  (p.path, p.method)

/-- The path and method of an endpoint. -/
def Endpoint.place (e : Endpoint) : String × Method :=
  (e.path, e.method)

theorem PlacedOperation.place_endpoint (d : Document) (p : PlacedOperation) :
    (p.endpoint d).place = p.place := rfl

theorem nodup_places (d : Document) : ((placedOperations d).map PlacedOperation.place).Nodup := by
  unfold placedOperations
  rw [List.map_flatMap, List.nodup_flatMap]
  constructor
  · intro e _
    have hd := e.2.operations.distinct
    rw [Entries.keys, List.Nodup, List.pairwise_map] at hd
    rw [List.map_map, List.Nodup, List.pairwise_map]
    exact hd.imp fun hne he => hne (congrArg Prod.snd he)
  · have hd := d.paths.distinct
    rw [Entries.keys, List.Nodup, List.pairwise_map] at hd
    refine hd.imp fun hne a ha hb => ?_
    simp only [List.mem_map] at ha hb
    obtain ⟨_, ⟨_, _, rfl⟩, rfl⟩ := ha
    obtain ⟨_, ⟨_, _, rfl⟩, he⟩ := hb
    exact hne (congrArg Prod.fst he).symm

/-- The path counts, and the filter lets it pass. -/
def SelectedPath (ctx : Context) (path : String) : Prop :=
  (path ≠ "" ∧ path ≠ "/") ∧ allows ctx.filterEndpoint path = true

instance (ctx : Context) (path : String) : Decidable (SelectedPath ctx path) :=
  inferInstanceAs (Decidable ((_ ∧ _) ∧ _ = _))

/-- **The selected operations are those of the document on selected paths, in its order.** -/
theorem selectedOperations_eq (d : Document) (ctx : Context) :
    selectedOperations d ctx = (placedOperations d).filter fun p => SelectedPath ctx p.path := by
  have hpaths : ((usablePaths d).filter fun e => allows ctx.filterEndpoint e.1) =
      d.paths.entries.filter fun e => SelectedPath ctx e.1 := by
    rw [usablePaths, List.filter_filter]
    apply List.filter_congr
    intro e _
    have hiff : (allows ctx.filterEndpoint e.1 && (e.1 != "" && e.1 != "/")) = true ↔
        SelectedPath ctx e.1 := by
      simp [SelectedPath, and_comm]
    rw [Bool.eq_iff_iff, hiff, decide_eq_true_iff]
  unfold selectedOperations placedOperations
  rw [hpaths]
  -- a path is selected with all of its operations or with none
  induction d.paths.entries with
  | nil => rfl
  | cons e es ih =>
    rw [List.flatMap_cons, List.filter_append, ← ih, List.filter_map]
    by_cases hs : SelectedPath ctx e.1
    · simp [Function.comp_def, hs]
    · simp [Function.comp_def, hs]

/-- The tag may own operations: it is registered, if the document registers tags. -/
def Registered (d : Document) (tag : String) : Prop :=
  ∀ ts ∈ d.tags, tag ∈ ts.map Tag.name

instance (d : Document) (tag : String) : Decidable (Registered d tag) :=
  inferInstanceAs (Decidable (∀ ts ∈ d.tags, tag ∈ ts.map Tag.name))

/-- The operation has a place in the module of the tag. -/
def PlacedOperation.BelongsTo (d : Document) (ctx : Context) (p : PlacedOperation)
    (tag : String) : Prop :=
  SelectedPath ctx p.path ∧ p.tag? ctx = some tag ∧ Registered d tag ∧
    allows ctx.filterTag tag = true

/-- Why an operation is dropped, if it is. -/
def PlacedOperation.drop? (d : Document) (ctx : Context) (p : PlacedOperation) : Option Notice :=
  match p.tag? ctx with
  | none => some (.untaggedOperation p.path p.method)
  | some tag => if Registered d tag then none else some (.unregisteredTag p.path p.method tag)

/-- What is said on an operation: why it is dropped or, if it is not, which of its parameters are
left out. -/
def PlacedOperation.notices (d : Document) (ctx : Context) (p : PlacedOperation) : List Notice :=
  match p.drop? d ctx with
  | some n => [n]
  | none => Endpoint.notices d p.path p.method p.item p.operation

/-- The tags in the order in which they get modules, after some of the operations: as they are
registered or, without a registry, as the operations come. -/
def tagOrder (d : Document) (ctx : Context) (ps : List PlacedOperation) : List String :=
  match d.tags with
  | some ts => ts.map Tag.name
  | none => ps.filterMap (PlacedOperation.tag? ctx)

/-- The endpoints of a tag among some of the operations. -/
def endpointsOf (d : Document) (ctx : Context) (ps : List PlacedOperation) (tag : String) :
    List Endpoint :=
  (ps.filter fun p => p.tag? ctx = some tag).map (PlacedOperation.endpoint d)

theorem endpointsOf_append (d : Document) (ctx : Context) (ps : List PlacedOperation)
    (p : PlacedOperation) (tag : String) :
    endpointsOf d ctx (ps ++ [p]) tag =
      endpointsOf d ctx ps tag ++ if p.tag? ctx = some tag then [p.endpoint d] else [] := by
  unfold endpointsOf
  rw [List.filter_append, List.map_append]
  by_cases h : p.tag? ctx = some tag
  · simp [h]
  · simp [h]

/-! ## Registries -/

namespace Registry

variable {r : Registry} {tag : String} {xs : List String} {endpoints : String → List Endpoint}

/-- Every module has the name it stands under, and the endpoints that are listed for it. -/
def Holds (endpoints : String → List Endpoint) (r : Registry) : Prop :=
  ∀ e ∈ r.entries, e.2.name = e.1 ∧ e.2.endpoints = endpoints e.1

theorem mem_keys_iff : tag ∈ r.keys ↔ ∃ m, r.find? tag = some m := by
  rw [OrderedMap.keys, ← Entries.isSome_find?_iff, Option.isSome_iff_exists]
  rfl

theorem register_of_find? {t : Tag} {m : TagModule} (h : r.find? t.name = some m) :
    r.register t = r := by
  simp [register, h]

theorem register_of_not_mem {t : Tag} (h : t.name ∉ r.keys) :
    r.register t = r.put t.name ⟨t.name, t.description, []⟩ := by
  cases hf : r.find? t.name with
  | none => simp [register, hf]
  | some m => exact absurd (mem_keys_iff.2 ⟨m, hf⟩) h

theorem keys_put (m : TagModule) :
    (r.put tag m).keys = if tag ∈ r.keys then r.keys else r.keys ++ [tag] :=
  Entries.keys_put tag m r.entries

/-- A registered tag comes behind those before it. -/
theorem firstUses_register (h : FirstUses xs r.keys) (t : Tag) :
    FirstUses (xs ++ [t.name]) (r.register t).keys := by
  by_cases hk : t.name ∈ r.keys
  · obtain ⟨m, hm⟩ := mem_keys_iff.1 hk
    rw [register_of_find? hm]
    exact h.append_old ((h.mem _).1 hk)
  · rw [register_of_not_mem hk, keys_put, if_neg hk]
    exact h.append_new fun hm => hk ((h.mem _).2 hm)

theorem mem_keys_register (t : Tag) : t.name ∈ (r.register t).keys := by
  by_cases hk : t.name ∈ r.keys
  · obtain ⟨m, hm⟩ := mem_keys_iff.1 hk
    rwa [register_of_find? hm]
  · rw [register_of_not_mem hk, keys_put, if_neg hk]
    exact List.mem_append_right _ (List.mem_singleton.2 rfl)

theorem Holds.register (h : r.Holds endpoints) (t : Tag)
    (ht : t.name ∉ r.keys → endpoints t.name = []) : (r.register t).Holds endpoints := by
  by_cases hk : t.name ∈ r.keys
  · obtain ⟨m, hm⟩ := mem_keys_iff.1 hk
    rwa [register_of_find? hm]
  · rw [register_of_not_mem hk]
    intro e he
    rcases (Entries.mem_put r.distinct).1 he with rfl | ⟨he, _⟩
    · exact ⟨rfl, (ht hk).symm⟩
    · exact h e he

/-- An endpoint more in the module of a tag is one more in the list of that tag. -/
theorem Holds.put (h : r.Holds endpoints) {m : TagModule} (hm : r.find? tag = some m)
    (e : Endpoint) :
    Holds (fun t => endpoints t ++ if tag = t then [e] else [])
      (r.put tag { m with endpoints := m.endpoints ++ [e] }) := by
  have hm' : (tag, m) ∈ r.entries := (Entries.find?_eq_some_iff r.distinct).1 hm
  obtain ⟨hname, heps⟩ := h _ hm'
  intro x hx
  rcases (Entries.mem_put r.distinct).1 hx with rfl | ⟨hx, hne⟩
  · refine ⟨hname, ?_⟩
    show m.endpoints ++ [e] = endpoints tag ++ if tag = tag then [e] else []
    rw [if_pos rfl, ← heps]
  · obtain ⟨hxname, hxeps⟩ := h x hx
    refine ⟨hxname, ?_⟩
    show x.2.endpoints = endpoints x.1 ++ if tag = x.1 then [e] else []
    rw [if_neg (Ne.symm hne), List.append_nil, hxeps]

end Registry

/-! ## The invariant -/

namespace Extraction

/-- What holds after some of the selected operations: the tags stand in their order, each module has
the endpoints of its tag, and everything is said that is to be said on them. -/
structure Inv (d : Document) (ctx : Context) (ps : List PlacedOperation) (x : Extraction) :
    Prop where
  names : FirstUses (tagOrder d ctx ps) x.registry.keys
  modules : Registry.Holds (endpointsOf d ctx ps) x.registry
  notices : x.notices = ps.flatMap (PlacedOperation.notices d ctx)

variable {d : Document} {ctx : Context} {ps : List PlacedOperation} {x : Extraction}

theorem start_inv (d : Document) (ctx : Context) : Inv d ctx [] (start d) := by
  suffices ∀ (ts : List Tag) (xs : List String) (r : Registry), FirstUses xs r.keys →
      Registry.Holds (fun _ => []) r →
      FirstUses (xs ++ ts.map Tag.name) (ts.foldl Registry.register r).keys ∧
        Registry.Holds (fun _ => []) (ts.foldl Registry.register r) by
    obtain ⟨hnames, hholds⟩ := this (d.tags.getD []) [] .empty FirstUses.nil (fun _ h => by cases h)
    refine ⟨?_, hholds, rfl⟩
    unfold tagOrder
    cases htags : d.tags with
    | none => simpa [start, htags] using hnames
    | some ts => simpa [start, htags] using hnames
  intro ts
  induction ts with
  | nil =>
    intro xs r hnames hholds
    exact ⟨by simpa using hnames, hholds⟩
  | cons t ts ih =>
    intro xs r hnames hholds
    have := ih (xs ++ [t.name]) (r.register t) (Registry.firstUses_register hnames t)
      (hholds.register t fun _ => rfl)
    rwa [List.append_assoc] at this

/-- Only tags that may own operations have a module. -/
theorem Inv.registered (h : Inv d ctx ps x) {tag : String} (ht : tag ∈ x.registry.keys) :
    Registered d tag := by
  intro ts hts
  have hmem := (h.names.mem tag).1 ht
  unfold tagOrder at hmem
  rw [hts] at hmem
  exact hmem

/-- The registry in which the module of an operation's tag is looked up. -/
def opened (d : Document) (x : Extraction) (tag : String) : Registry :=
  if d.tags.isSome then x.registry else x.registry.register ⟨tag, ""⟩

/-- The tag of an operation, if it may own operations, has a module to go to. -/
theorem Inv.opened (h : Inv d ctx ps x) {p : PlacedOperation} {tag : String}
    (htag : p.tag? ctx = some tag) (hreg : Registered d tag) :
    FirstUses (tagOrder d ctx (ps ++ [p])) (opened d x tag).keys ∧
      Registry.Holds (endpointsOf d ctx ps) (x.opened d tag) ∧
      ∃ m, (x.opened d tag).find? tag = some m := by
  have hnames := h.names
  unfold Extraction.opened
  unfold tagOrder at hnames ⊢
  cases htags : d.tags with
  | some ts =>
    rw [htags] at hnames
    refine ⟨hnames, h.modules, Registry.mem_keys_iff.1 ((hnames.mem tag).2 ?_)⟩
    exact hreg ts htags
  | none =>
    rw [htags] at hnames
    refine ⟨?_, h.modules.register _ fun hnew => ?_, Registry.mem_keys_iff.1
      (Registry.mem_keys_register _)⟩
    · simpa [List.filterMap_append, htag] using Registry.firstUses_register hnames ⟨tag, ""⟩
    · -- a tag without module owns none of the operations so far
      have hnone : tag ∉ ps.filterMap (PlacedOperation.tag? ctx) := fun hm =>
        hnew ((hnames.mem tag).2 hm)
      rw [endpointsOf, List.map_eq_nil_iff, List.filter_eq_nil_iff]
      intro q hq hqt
      exact hnone (List.mem_filterMap.2 ⟨q, hq, of_decide_eq_true hqt⟩)

theorem step_eq_of_untagged {p : PlacedOperation} (htag : p.tag? ctx = none) :
    x.step d ctx p = ⟨x.registry, x.notices ++ [.untaggedOperation p.path p.method]⟩ := by
  simp [step, htag]

theorem step_eq_of_unregistered {p : PlacedOperation} {tag : String}
    (htag : p.tag? ctx = some tag) (hm : (x.opened d tag).find? tag = none) :
    x.step d ctx p =
      ⟨x.opened d tag, x.notices ++ [.unregisteredTag p.path p.method tag]⟩ := by
  unfold Extraction.opened at hm ⊢
  simp only [step, htag, hm]

theorem step_eq_of_owned {p : PlacedOperation} {tag : String} {m : TagModule}
    (htag : p.tag? ctx = some tag) (hm : (x.opened d tag).find? tag = some m) :
    x.step d ctx p =
      ⟨(x.opened d tag).put tag { m with endpoints := m.endpoints ++ [p.endpoint d] },
        x.notices ++ Endpoint.notices d p.path p.method p.item p.operation⟩ := by
  unfold Extraction.opened at hm ⊢
  simp only [step, htag, hm]

/-- The order of tags does not change with an operation that is dropped. -/
theorem tagOrder_append_dropped {p : PlacedOperation}
    (hp : ∀ tag, p.tag? ctx = some tag → ¬ Registered d tag) :
    tagOrder d ctx (ps ++ [p]) = tagOrder d ctx ps := by
  unfold tagOrder
  cases htags : d.tags with
  | some ts => rfl
  | none =>
    have hnone : p.tag? ctx = none := by
      cases htag : p.tag? ctx with
      | none => rfl
      | some tag => exact absurd (fun ts hts => by rw [htags] at hts; cases hts) (hp tag htag)
    simp [hnone]

/-- An operation that is dropped leaves the modules as they are. -/
theorem Inv.dropped (h : Inv d ctx ps x) {p : PlacedOperation} {n : Notice}
    (hp : ∀ tag, p.tag? ctx = some tag → ¬ Registered d tag) (hn : p.drop? d ctx = some n) :
    Inv d ctx (ps ++ [p]) ⟨x.registry, x.notices ++ [n]⟩ := by
  refine ⟨?_, fun e he => ?_, ?_⟩
  · rw [tagOrder_append_dropped hp]
    exact h.names
  · rw [endpointsOf_append, if_neg, List.append_nil]
    · exact h.modules e he
    · -- the tags of modules may own operations
      exact fun htag => hp e.1 htag (h.registered (List.mem_map_of_mem he))
  · show x.notices ++ [n] = _
    rw [List.flatMap_append, List.flatMap_singleton, ← h.notices]
    simp [PlacedOperation.notices, hn]

/-- An operation whose tag may own it goes to the module of its tag. -/
theorem Inv.owned (h : Inv d ctx ps x) {p : PlacedOperation} {tag : String}
    (htag : p.tag? ctx = some tag) (hreg : Registered d tag) :
    Inv d ctx (ps ++ [p]) (x.step d ctx p) := by
  obtain ⟨hnames, hholds, m, hm⟩ := h.opened htag hreg
  rw [step_eq_of_owned htag hm]
  refine ⟨?_, fun e he => ?_, ?_⟩
  · rw [Registry.keys_put, if_pos (Registry.mem_keys_iff.2 ⟨m, hm⟩)]
    exact hnames
  · rw [endpointsOf_append, htag]
    simpa using hholds.put hm (p.endpoint d) e he
  · show x.notices ++ Endpoint.notices d p.path p.method p.item p.operation = _
    rw [List.flatMap_append, List.flatMap_singleton, ← h.notices]
    simp [PlacedOperation.notices, PlacedOperation.drop?, htag, hreg]

/-- **One operation keeps the invariant**, whether it is dropped or goes to a module. -/
theorem step_inv (h : Inv d ctx ps x) (p : PlacedOperation) :
    Inv d ctx (ps ++ [p]) (x.step d ctx p) := by
  cases htag : p.tag? ctx with
  | none =>
    rw [step_eq_of_untagged htag]
    exact h.dropped (by simp [htag]) (by simp [PlacedOperation.drop?, htag])
  | some tag =>
    by_cases hreg : Registered d tag
    · exact h.owned htag hreg
    · -- an unregistered tag means that the document has a registry, which stays as it is
      have hsome : d.tags.isSome = true := by
        cases htags : d.tags with
        | none => exact absurd (fun ts hts => by rw [htags] at hts; cases hts) hreg
        | some ts => rfl
      have hopened : x.opened d tag = x.registry := by
        rw [Extraction.opened, if_pos hsome]
      have hfind : (x.opened d tag).find? tag = none := by
        rw [hopened]
        cases hf : x.registry.find? tag with
        | none => rfl
        | some m => exact absurd (h.registered (Registry.mem_keys_iff.2 ⟨m, hf⟩)) hreg
      rw [step_eq_of_unregistered htag hfind, hopened]
      exact h.dropped (by simpa [htag] using hreg) (by simp [PlacedOperation.drop?, htag, hreg])

/-- **A whole run keeps the invariant.** -/
theorem run_inv (h : Inv d ctx ps x) (qs : List PlacedOperation) :
    Inv d ctx (ps ++ qs) (qs.foldl (step d ctx) x) := by
  induction qs generalizing ps x with
  | nil => rwa [List.append_nil]
  | cons q qs ih =>
    rw [List.append_cons]
    exact ih (step_inv h q)

end Extraction

/-! ## The modules of a document -/

/-- The notice is a warning that an operation is dropped. -/
def Notice.isDrop (n : Notice) : Bool :=
  n.level == .warning && "Dropping operation ".toList.isPrefixOf n.message.toList

theorem isDrop_of_drop? {d : Document} {ctx : Context} {p : PlacedOperation} {n : Notice}
    (h : p.drop? d ctx = some n) : n.isDrop = true := by
  unfold PlacedOperation.drop? at h
  split at h
  · cases h
    simp [Notice.isDrop, Notice.level, Notice.message]
  · split at h
    · cases h
    · cases h
      simp [Notice.isDrop, Notice.level, Notice.message]

/-- Of what is said on an operation, only the reason why it is dropped tells of a drop. -/
theorem filter_isDrop_notices (d : Document) (ctx : Context) (p : PlacedOperation) :
    (p.notices d ctx).filter Notice.isDrop = (p.drop? d ctx).toList := by
  unfold PlacedOperation.notices
  cases h : p.drop? d ctx with
  | some n => simp [isDrop_of_drop? h]
  | none =>
    rw [Option.toList_none, List.filter_eq_nil_iff]
    intro n hn
    obtain ⟨e, _, rfl⟩ := List.mem_map.1 hn
    simp [Notice.isDrop, Notice.level, Notice.message]

/-- The modules share out the operations of the document. -/
structure Partition (d : Document) (ctx : Context) (modules : List TagModule) : Prop where
  distinct : (modules.map TagModule.name).Nodup
  inhabited : ∀ m ∈ modules, m.endpoints ≠ []
  /-- An operation occurs in the module of a tag exactly if it belongs there. -/
  owned : ∀ p ∈ placedOperations d, ∀ tag,
    (∃ m ∈ modules, m.name = tag ∧ p.place ∈ m.endpoints.map Endpoint.place) ↔
      p.BelongsTo d ctx tag
  /-- An operation that occurs in a module occurs there once, as its endpoint. -/
  once : ∀ p ∈ placedOperations d, ∀ m ∈ modules, p.place ∈ m.endpoints.map Endpoint.place →
    (m.endpoints.filter fun e => e.place = p.place) = [p.endpoint d]
  /-- Inside a module the operations are in document order. -/
  documentOrder : ∀ m ∈ modules,
    m.endpoints.Sublist ((placedOperations d).map (PlacedOperation.endpoint d))
  /-- The modules are in the order of their tags. -/
  moduleOrder : (modules.map TagModule.name).Pairwise fun a b =>
    (tagOrder d ctx (selectedOperations d ctx)).idxOf a <
      (tagOrder d ctx (selectedOperations d ctx)).idxOf b

/-- The endpoints of a tag are those of the operations of the document that it owns. -/
theorem endpointsOf_selected (d : Document) (ctx : Context) (tag : String) :
    endpointsOf d ctx (selectedOperations d ctx) tag =
      ((placedOperations d).filter fun p => SelectedPath ctx p.path ∧ p.tag? ctx = some tag).map
        (PlacedOperation.endpoint d) := by
  rw [endpointsOf, selectedOperations_eq, List.filter_filter]
  congr 1
  apply List.filter_congr
  intro p _
  rw [Bool.eq_iff_iff]
  simp [and_comm]

/-- Of operations of one document, only an operation itself has its path and method. -/
theorem filter_place {d : Document} {ps : List PlacedOperation} {p : PlacedOperation}
    (hs : ps.Sublist (placedOperations d)) (hp : p ∈ ps) :
    ((ps.map (PlacedOperation.endpoint d)).filter fun e => e.place = p.place) =
      [p.endpoint d] := by
  have hnd : (ps.map PlacedOperation.place).Nodup := (hs.map _).nodup (nodup_places d)
  clear hs
  induction ps with
  | nil => cases hp
  | cons q ps ih =>
    obtain ⟨hq, hnd⟩ := List.nodup_cons.1 hnd
    rw [List.map_cons]
    rcases List.mem_cons.1 hp with rfl | hp
    · rw [List.filter_cons_of_pos (by simp [PlacedOperation.place_endpoint]),
        List.filter_eq_nil_iff.2]
      intro e he
      obtain ⟨r, hr, rfl⟩ := List.mem_map.1 he
      rw [decide_eq_true_iff, PlacedOperation.place_endpoint]
      exact fun heq => hq (List.mem_map.2 ⟨r, hr, heq⟩)
    · rw [List.filter_cons_of_neg, ih hp hnd]
      rw [decide_eq_true_iff, PlacedOperation.place_endpoint]
      exact fun heq => hq (List.mem_map.2 ⟨p, hp, heq.symm⟩)

namespace Extraction

variable {d : Document} {ctx : Context} {x : Extraction}

theorem mem_modules {m : TagModule} :
    m ∈ x.modules ctx ↔
      (∃ tag, (tag, m) ∈ x.registry.entries) ∧ allows ctx.filterTag m.name = true ∧
        m.endpoints ≠ [] := by
  simp only [modules, List.mem_filter, List.mem_map, Prod.exists, exists_eq_right,
    Bool.not_eq_true', List.isEmpty_eq_false_iff, and_assoc]

/-- The modules that are kept stand in the order of the registry. -/
theorem modules_sublist (ctx : Context) {endpoints : String → List Endpoint}
    (h : Registry.Holds endpoints x.registry) :
    ((x.modules ctx).map TagModule.name).Sublist x.registry.keys := by
  have hkeys : (x.registry.entries.map Prod.snd).map TagModule.name = x.registry.keys := by
    rw [List.map_map, OrderedMap.keys, Entries.keys]
    exact List.map_congr_left fun e he => (h e he).1
  rw [← hkeys]
  exact (List.filter_sublist.trans List.filter_sublist).map _

end Extraction

namespace Extraction.Inv

variable {d : Document} {ctx : Context} {x : Extraction}

/-- A module that is kept has the endpoints of the operations that belong to its tag. -/
theorem endpoints_eq (h : Inv d ctx (selectedOperations d ctx) x) {m : TagModule}
    (hm : m ∈ x.modules ctx) :
    m.name ∈ x.registry.keys ∧ allows ctx.filterTag m.name = true ∧ m.endpoints =
      ((placedOperations d).filter fun p => SelectedPath ctx p.path ∧ p.tag? ctx = some m.name).map
        (PlacedOperation.endpoint d) := by
  obtain ⟨⟨tag, he⟩, hallows, _⟩ := mem_modules.1 hm
  obtain ⟨hname, heps⟩ := h.modules _ he
  rw [endpointsOf_selected, ← hname] at heps
  exact ⟨List.mem_map.2 ⟨_, he, hname.symm⟩, hallows, heps⟩

/-- An operation that occurs in a module that is kept has its tag. -/
theorem selected_of_place (h : Inv d ctx (selectedOperations d ctx) x) {p : PlacedOperation}
    (hp : p ∈ placedOperations d) {m : TagModule} (hm : m ∈ x.modules ctx)
    (hpm : p.place ∈ m.endpoints.map Endpoint.place) :
    SelectedPath ctx p.path ∧ p.tag? ctx = some m.name := by
  rw [(h.endpoints_eq hm).2.2, List.map_map] at hpm
  obtain ⟨q, hq, hqp⟩ := List.mem_map.1 hpm
  obtain ⟨hq, hsel⟩ := List.mem_filter.1 hq
  have hqp : q = p := List.inj_on_of_nodup_map (nodup_places d) hq hp hqp
  rw [← hqp]
  exact of_decide_eq_true hsel

/-- An operation that belongs to a tag occurs in a module that is kept. -/
theorem exists_module (h : Inv d ctx (selectedOperations d ctx) x) {p : PlacedOperation}
    (hp : p ∈ placedOperations d) {tag : String} (hb : p.BelongsTo d ctx tag) :
    ∃ m ∈ x.modules ctx, m.name = tag ∧ p.place ∈ m.endpoints.map Endpoint.place := by
  obtain ⟨hsel, htag, hreg, hallows⟩ := hb
  have hmem : p ∈ selectedOperations d ctx := by
    rw [selectedOperations_eq]
    exact List.mem_filter.2 ⟨hp, decide_eq_true hsel⟩
  have hkey : tag ∈ x.registry.keys := (h.names.mem tag).2 <| by
    unfold tagOrder
    cases htags : d.tags with
    | some ts => exact hreg ts htags
    | none => exact List.mem_filterMap.2 ⟨p, hmem, htag⟩
  obtain ⟨m, hm⟩ := Registry.mem_keys_iff.1 hkey
  have he := (Entries.find?_eq_some_iff x.registry.distinct).1 hm
  obtain ⟨hname, heps⟩ := h.modules _ he
  have hpm : p.endpoint d ∈ m.endpoints := by
    rw [heps, endpointsOf]
    exact List.mem_map_of_mem (List.mem_filter.2 ⟨hmem, decide_eq_true htag⟩)
  refine ⟨m, mem_modules.2 ⟨⟨tag, he⟩, ?_, List.ne_nil_of_mem hpm⟩, hname,
    List.mem_map_of_mem hpm⟩
  rw [hname]
  exact hallows

/-- **After all selected operations, the modules that are kept partition the document.** -/
theorem partition (h : Inv d ctx (selectedOperations d ctx) x) :
    Partition d ctx (x.modules ctx) := by
  have hsub := modules_sublist ctx h.modules
  refine ⟨h.names.nodup.sublist hsub, fun m hm => (mem_modules.1 hm).2.2, fun p hp tag => ⟨?_, ?_⟩,
    fun p hp m hm hpm => ?_, fun m hm => ?_, h.names.order_sublist hsub⟩
  · rintro ⟨m, hm, rfl, hpm⟩
    obtain ⟨hsel, htag⟩ := h.selected_of_place hp hm hpm
    obtain ⟨hkey, hallows, _⟩ := h.endpoints_eq hm
    exact ⟨hsel, htag, h.registered hkey, hallows⟩
  · exact h.exists_module hp
  · rw [(h.endpoints_eq hm).2.2]
    exact filter_place List.filter_sublist
      (List.mem_filter.2 ⟨hp, decide_eq_true (h.selected_of_place hp hm hpm)⟩)
  · rw [(h.endpoints_eq hm).2.2]
    exact List.filter_sublist.map _

end Extraction.Inv

/-- An endpoint of a module is that of an operation of the document. -/
theorem exists_operation_of_extract {d : Document} {ctx : Context} {modules : List TagModule}
    (h : (extract d ctx).result = .ok modules) {m : TagModule} (hm : m ∈ modules) {e : Endpoint}
    (he : e ∈ m.endpoints) : ∃ p ∈ placedOperations d, e = p.endpoint d := by
  unfold extract at h
  split at h
  · cases h
  · cases h
    have hinv := Extraction.run_inv (Extraction.start_inv d ctx) (selectedOperations d ctx)
    rw [List.nil_append] at hinv
    have hsub := (hinv.partition.documentOrder m hm).subset he
    obtain ⟨p, hp, heq⟩ := List.mem_map.1 hsub
    exact ⟨p, hp, heq.symm⟩

theorem isEmpty_usablePaths_iff (d : Document) :
    (usablePaths d).isEmpty = true ↔ ∀ path ∈ d.paths.keys, path = "" ∨ path = "/" := by
  rw [List.isEmpty_iff, usablePaths, List.filter_eq_nil_iff, OrderedMap.keys, Entries.keys]
  simp only [List.forall_mem_map]
  refine forall₂_congr fun e _ => ?_
  by_cases h : e.1 = "" <;> simp [h]

/-- **Extraction partitions the document.** It fails exactly if no path counts. Otherwise its
modules share out the operations as `Partition` says, and of the selected operations it tells that
those are dropped, one notice each, that have no tag or an unregistered one. -/
theorem extract_partitions (d : Document) (ctx : Context) :
    ((∀ path ∈ d.paths.keys, path = "" ∨ path = "/") ∧
      extract d ctx = .fail (.document .noPaths)) ∨
    ((∃ path ∈ d.paths.keys, path ≠ "" ∧ path ≠ "/") ∧
      ∃ modules, (extract d ctx).result = .ok modules ∧ Partition d ctx modules ∧
        (extract d ctx).notices.filter Notice.isDrop =
          (selectedOperations d ctx).filterMap (PlacedOperation.drop? d ctx)) := by
  by_cases hempty : (usablePaths d).isEmpty = true
  · refine Or.inl ⟨(isEmpty_usablePaths_iff d).1 hempty, ?_⟩
    rw [extract, if_pos hempty]
  · refine Or.inr ⟨?_, ?_⟩
    · rw [isEmpty_usablePaths_iff] at hempty
      push Not at hempty
      exact hempty
    · have hinv := Extraction.run_inv (Extraction.start_inv d ctx) (selectedOperations d ctx)
      rw [List.nil_append] at hinv
      rw [extract, if_neg hempty]
      refine ⟨_, rfl, hinv.partition, ?_⟩
      show ((selectedOperations d ctx).foldl (Extraction.step d ctx)
        (Extraction.start d)).notices.filter Notice.isDrop = _
      rw [hinv.notices, List.filter_flatMap]
      simp only [filter_isDrop_notices]
      rw [List.filterMap_eq_flatMap_toList]

end TypedRequests.Request
