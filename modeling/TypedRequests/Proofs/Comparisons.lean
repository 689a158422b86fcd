import TypedRequests.Proofs.TellingDocuments

/-!
# Reading data and reading it bare

Data of one notation can be read by the rules of another when it is bare. Whether the results go
together is decided by the scalars.

* `Comparison` : how results can go together, with `Comparison.equal` and `Comparison.agree`.
* `Comparison.Fits` : what is asked of two sets of rules.
* `rel_readRecord`, `Schema.rel_read` : the results for records and schemas.
-/

set_option autoImplicit false

namespace TypedRequests

open Node OpenApi

/-! ## Results that go together -/

/-- A way in which results go together. Of steps that are made one after the other it is enough that
each goes together with its like. -/
structure Comparison where
  rel : {α : Type} → Except ReadError α → Except ReadError α → Prop
  refl {α : Type} (x : Except ReadError α) : rel x x
  bind {α β : Type} {x y : Except ReadError α} {f g : α → Except ReadError β} (h : rel x y)
    (hfg : ∀ a, x = .ok a → rel (f a) (g a)) : rel (x >>= f) (y >>= g)
  mapError {α : Type} {x y : Except ReadError α} (h : rel x y) (e : ReadError → ReadError) :
    rel (x.mapError e) (y.mapError e)

namespace Comparison

/-- The results are the same. -/
def equal : Comparison where
  rel x y := x = y
  refl _ := rfl
  bind {_ _ x y f g} h hfg := by
    subst h
    cases x with
    | error e => rfl
    | ok a => exact hfg a rfl
  mapError h e := by rw [h]

/-- The results are the same unless there is an error. -/
def agree : Comparison where
  rel x y := ∀ a b, x = .ok a → y = .ok b → a = b
  refl x a b ha hb := Except.ok.inj (ha.symm.trans hb)
  bind h hfg a b ha hb := by
    obtain ⟨a', ha', ha⟩ := bind_eq_ok.1 ha
    obtain ⟨b', hb', hb⟩ := bind_eq_ok.1 hb
    obtain rfl := h a' b' ha' hb'
    exact hfg a' ha' a b ha hb
  mapError h e a b ha hb := h a b (mapError_eq_ok.1 ha) (mapError_eq_ok.1 hb)

/-- The rules read the scalars and keys of data alike, if the second rules see them bare. -/
structure Fits (c : Comparison) (r r' : Rules) (good : Node → Prop) : Prop where
  text {l : Leaf} : good (leaf l) → c.rel (readText r (leaf l)) (readText r' (leaf l.bare))
  blank {α : Type} {l : Leaf} (x : Except ReadError α) (wanted : Wanted) : good (leaf l) →
    c.rel (if r.blankIsEmpty && l.isBlank then x else wrongLeaf l wanted)
      (if r'.blankIsEmpty && l.bare.isBlank then x else wrongLeaf l.bare wanted)
  positions {α : Type} {x y : Except ReadError α} (e : ReadError) : c.rel x y →
    c.rel (if r.positional then x else .error e) (if r'.positional then y else .error e)
  surplus {α : Type} (length : Nat) :
    c.rel (.error (r.surplus length) : Except ReadError α) (.error (r'.surplus length))
  key {es : List (Leaf × Node)} {e : Leaf × Node} : good (record es) → e ∈ es →
    c.rel (r.key e.1) (r'.key e.1.bareKey)
  named {es : List (Leaf × Node)} {e : Leaf × Node} {name : String} : good (record es) → e ∈ es →
    r.key e.1 = .ok name → e.1.text = some name

end Comparison

/-- The data has a value, and its parts are like it. -/
structure Node.Hereditary (good : Node → Prop) : Prop where
  item {ns : List Node} {n : Node} : good (list ns) → n ∈ ns → good n
  member {es : List (Leaf × Node)} {e : Leaf × Node} : good (record es) → e ∈ es → good e.2
  hasValue {n : Node} : good n → ∃ v, n.HasValue v

theorem Node.Hereditary.not_tagged {good : Node → Prop} (h : Hereditary good) (n : Node) :
    ¬ good (tagged n) := by
  intro hn
  obtain ⟨v, hv⟩ := h.hasValue hn
  exact not_hasValue_tagged hv

/-! ## Bare scalars -/

theorem wrongLeaf_bare {α : Type} (l : Leaf) (wanted : Wanted) :
    wrongLeaf (α := α) l.bare wanted = wrongLeaf l wanted := by
  rw [wrongLeaf, Leaf.value_bare, wrongLeaf]

theorem length_bareItems (ns : List Node) : (bareItems ns).length = ns.length := by
  rw [bareItems_eq, List.length_map]

theorem isNull_bare (n : Node) : n.bare.isNull = n.isNull := by
  cases n with
  | leaf l => rw [Node.bare, Node.isNull, Leaf.value_bare, Node.isNull]
  | _ => rfl

section Parts

variable {c : Comparison} {r r' : Rules} {good : Node → Prop} {n : Node} {α β σ : Type}
  {x y : Except ReadError α} {read read' : Node → Except ReadError α}

namespace Comparison

theorem rel_map (h : c.rel x y) (f : α → β) : c.rel (x.map f) (y.map f) := by
  have hmap : ∀ z : Except ReadError α, z.map f = z >>= fun a => .ok (f a) := by
    intro z
    cases z <;> rfl
  rw [hmap, hmap]
  exact c.bind h fun a _ => c.refl _

/-- Results go together also when another error is given. -/
theorem rel_orElse (f : α → β) (e : ReadError) : c.rel x y →
    c.rel
      (match x with
        | .ok a => .ok (f a)
        | .error _ => .error e)
      (match y with
        | .ok a => .ok (f a)
        | .error _ => .error e) := by
  intro h
  have hmap : ∀ z : Except ReadError α, ((z.map f).mapError fun _ => e) =
      match z with
      | .ok a => .ok (f a)
      | .error _ => .error e := by
    intro z
    cases z <;> rfl
  have hrel := c.mapError (c.rel_map h f) fun _ => e
  rwa [hmap, hmap] at hrel

theorem rel_readOption (h : c.rel (read n) (read' n.bare)) :
    c.rel (readOption read n) (readOption read' n.bare) := by
  unfold readOption
  rw [isNull_bare]
  split
  · exact c.refl _
  · exact c.rel_map h some

theorem rel_readEach {ns : List Node} (h : ∀ n ∈ ns, c.rel (read n) (read' n.bare)) :
    c.rel (readEach read ns) (readEach read' (bareItems ns)) := by
  induction ns with
  | nil => exact c.refl _
  | cons n ns ih =>
    obtain ⟨hfirst, hrest⟩ := List.forall_mem_cons.1 h
    exact c.bind hfirst fun a _ => c.bind (ih hrest) fun as _ => c.refl _

theorem rel_readEntries {es : List (Leaf × Node)}
    (hkeys : ∀ e ∈ es, c.rel (r.key e.1) (r'.key e.1.bareKey))
    (h : ∀ e ∈ es, c.rel (read e.2) (read' e.2.bare)) :
    c.rel (readEntries r read es) (readEntries r' read' (bareEntries es)) := by
  induction es with
  | nil => exact c.refl _
  | cons e es ih =>
    obtain ⟨k, n⟩ := e
    obtain ⟨hkey, hkeys⟩ := List.forall_mem_cons.1 hkeys
    obtain ⟨hfirst, hrest⟩ := List.forall_mem_cons.1 h
    exact c.bind hkey fun name _ => c.bind hfirst fun a _ => c.bind (ih hkeys hrest) fun rs _ =>
      c.refl _

variable {form : RecordForm} {set set' : String → Node → σ → Except ReadError σ}

theorem rel_readFields {es : List (Leaf × Node)} {given : List String} {a : σ}
    (hkeys : ∀ e ∈ es, c.rel (r.key e.1) (r'.key e.1.bareKey))
    (h : ∀ e ∈ es, ∀ name, r.key e.1 = .ok name → ∀ a,
      c.rel (set name e.2 a) (set' name e.2.bare a)) :
    c.rel (readFields r form set es given a)
      (readFields r' form set' (bareEntries es) given a) := by
  induction es generalizing given a with
  | nil => exact c.refl _
  | cons e es ih =>
    obtain ⟨k, n⟩ := e
    obtain ⟨hkey, hkeys⟩ := List.forall_mem_cons.1 hkeys
    obtain ⟨hfirst, hrest⟩ := List.forall_mem_cons.1 h
    refine c.bind hkey fun name hname => ?_
    split
    · exact c.bind (c.refl _) fun _ _ => c.bind (hfirst name hname a) fun b _ => ih hkeys hrest
    · exact ih hkeys hrest

end Comparison

variable (hr : c.Fits r r' good) (hg : Hereditary good)

include hr hg

namespace Comparison.Fits

theorem rel_readText (hn : good n) : c.rel (readText r n) (readText r' n.bare) := by
  cases n with
  | leaf l => exact hr.text hn
  | list ns => exact c.refl _
  | record es => exact c.refl _
  | tagged n => exact absurd hn (hg.not_tagged n)

theorem rel_readList (hn : good n) (h : ∀ m ∈ n.parts, c.rel (read m) (read' m.bare)) :
    c.rel (readList r read n) (readList r' read' n.bare) := by
  cases n with
  | leaf l => exact hr.blank _ _ hn
  | list ns => exact c.rel_readEach h
  | record es => exact c.refl _
  | tagged n => exact absurd hn (hg.not_tagged n)

theorem rel_readPairs (hn : good n) (h : ∀ m ∈ memberParts n, c.rel (read m) (read' m.bare)) :
    c.rel (readPairs r read n) (readPairs r' read' n.bare) := by
  cases n with
  | leaf l => exact hr.blank _ _ hn
  | list ns => exact c.refl _
  | record es =>
    exact c.rel_readEntries (fun e he => hr.key hn he) fun e he => h _ (List.mem_map_of_mem he)
  | tagged n => exact absurd hn (hg.not_tagged n)

theorem rel_readMap (hn : good n) (h : ∀ m ∈ memberParts n, c.rel (read m) (read' m.bare)) :
    c.rel (readMap r read n) (readMap r' read' n.bare) :=
  c.rel_map (hr.rel_readPairs hg hn h) _

variable {form : RecordForm} {set set' : String → Node → σ → Except ReadError σ}

omit hg in
theorem rel_readPositions {ns : List Node} {length : Nat} {fields : List (String × Need)} {a : σ}
    (h : ∀ f m, (f, m) ∈ fields.zip ns → ∀ a, c.rel (set f.1 m a) (set' f.1 m.bare a)) :
    c.rel (readPositions r form length set fields ns a)
      (readPositions r' form length set' fields (bareItems ns) a) := by
  induction ns generalizing fields a with
  | nil => cases fields <;> exact c.refl _
  | cons n ns ih =>
    cases fields with
    | nil => exact hr.surplus length
    | cons f fields =>
      refine c.bind (h f n (List.mem_cons_self ..) a) fun b _ => ih fun f m hm => ?_
      exact h f m (List.mem_cons_of_mem _ hm)

/-- **Results for a record go together** if those for its fields do. -/
theorem rel_readRecord (hn : good n) (a : σ)
    (h : ∀ name, ∀ m ∈ fieldParts form name n, ∀ a, c.rel (set name m a) (set' name m.bare a)) :
    c.rel (readRecord r form set a n) (readRecord r' form set' a n.bare) := by
  cases n with
  | leaf l => exact hr.blank _ _ hn
  | list ns =>
    rw [Node.bare, readRecord, readRecord, length_bareItems]
    refine hr.positions _ (hr.rel_readPositions fun f m hm => ?_)
    exact h f.1 m (mem_fieldParts_list hm)
  | record es =>
    refine c.rel_readFields (fun e he => hr.key hn he) fun e he name hname => ?_
    exact h name e.2 (mem_fieldParts_record he (hr.named hn he hname))
  | tagged n => exact absurd hn (hg.not_tagged n)

end Comparison.Fits

end Parts

/-! ## Schemas -/

theorem Node.Hereditary.parts {good : Node → Prop} (hg : Hereditary good) {n : Node} (hn : good n) :
    ∀ m ∈ n.parts, good m := by
  cases n with
  | list ns => exact fun m hm => hg.item hn hm
  | record es => exact List.forall_mem_map.2 fun e he => hg.member hn he
  | _ => exact nofun

theorem readBool_bare {n : Node} {v : Json} (h : n.HasValue v) : readBool n.bare = readBool n := by
  cases n with
  | leaf l => rw [Node.bare, readBool, readBool, Leaf.value_bare, wrongLeaf_bare]
  | tagged n => exact absurd h not_hasValue_tagged
  | _ => rfl

theorem readText_bare {n : Node} {v : Json} (h : n.HasValue v) :
    readText .jsonValue n.bare = readText .jsonValue n := by
  cases n with
  | leaf l =>
    have htext : Rules.jsonValue.textOf? l.bare = Rules.jsonValue.textOf? l := by
      unfold Rules.textOf?
      rw [Leaf.value_bare]
      rfl
    rw [Node.bare, readText, readText, wrongLeaf_bare, htext]
  | tagged n => exact absurd h not_hasValue_tagged
  | _ => rfl

namespace OpenApi

theorem checkReadable_of_hasValue {n : Node} {v : Json} (h : n.HasValue v) :
    checkReadable n = .ok () :=
  checkReadable_eq_ok.2 (Option.isSome_of_mem h)

theorem readEnumValue_bare {n : Node} {v : Json} (h : n.HasValue v) :
    readEnumValue n.bare = readEnumValue n := by
  have hbare : n.bare.toJson? = n.toJson? := h.bare.trans h.symm
  cases n with
  | leaf l =>
    obtain ⟨s, hs, -⟩ := hasValue_leaf.1 h
    have hl : Node.bare (leaf l) = leaf (.ofScalar s) := by rw [Node.bare, Leaf.bare_of_value hs]
    rw [hl] at hbare ⊢
    cases l
    cases hs
    cases s <;> simp_all [readEnumValue, Leaf.ofScalar, Leaf.string]
  | tagged n => exact absurd h not_hasValue_tagged
  | list ns =>
    rw [Node.bare] at hbare ⊢
    rw [readEnumValue, hbare, readEnumValue]
    all_goals exact fun _ _ hleaf => Node.noConfusion hleaf
  | record es =>
    rw [Node.bare] at hbare ⊢
    rw [readEnumValue, hbare, readEnumValue]
    all_goals exact fun _ _ hleaf => Node.noConfusion hleaf

section Schemas

variable {c : Comparison} {good : Node → Prop} {n : Node}

variable (hv : c.Fits .jsonValue .jsonValue good) (hg : Hereditary good)

include hv hg

theorem rel_readTypeNames (hn : good n) : c.rel (readTypeNames n) (readTypeNames n.bare) := by
  obtain ⟨v, hvalue⟩ := hg.hasValue hn
  have hnames : c.rel (readList .jsonValue (readText .jsonValue) n)
      (readList .jsonValue (readText .jsonValue) n.bare) :=
    hv.rel_readList hg hn fun m hm => hv.rel_readText hg (hg.parts hn m hm)
  unfold readTypeNames
  rw [checkReadable_of_hasValue hvalue, checkReadable_of_hasValue hvalue.bare,
    readText_bare hvalue]
  refine c.bind (c.refl _) fun _ _ => ?_
  cases readText .jsonValue n with
  | ok name => exact c.refl _
  | error _ =>
    generalize readList .jsonValue (readText .jsonValue) n = x at hnames
    generalize readList .jsonValue (readText .jsonValue) n.bare = y at hnames
    have hrel := c.rel_orElse TypeNames.multiple (.noVariant "SchemaType") hnames
    cases x <;> cases y <;> exact hrel

omit hv in
theorem Schema.rel_readAdditional (hn : good n) {read read' : Rules → Except ReadError Schema}
    (h : c.rel (read .jsonValue) (read' .jsonValue)) :
    c.rel (readAdditional n read) (readAdditional n.bare read') := by
  obtain ⟨v, hvalue⟩ := hg.hasValue hn
  unfold readAdditional
  rw [checkReadable_of_hasValue hvalue, checkReadable_of_hasValue hvalue.bare,
    readBool_bare hvalue]
  refine c.bind (c.refl _) fun _ _ => ?_
  cases readBool n with
  | ok b => exact c.refl _
  | error _ =>
    generalize read .jsonValue = x at h
    generalize read' .jsonValue = y at h
    have hrel := c.rel_orElse Additional.schema (.noVariant "AdditionalProperties") h
    cases x <;> cases y <;> exact hrel

theorem Schema.rel_set {r r' : Rules} (hr : c.Fits r r' good) (hn : good n) (name : String)
    (s : Schema)
    (hread : ∀ r r', c.Fits r r' good → c.rel (read r n) (read r' n.bare))
    (hproperties : ∀ r r', c.Fits r r' good →
      c.rel (readProperties r n) (readProperties r' n.bare)) :
    c.rel (set r name n s) (set r' name n.bare s) := by
  unfold set setField
  split
  · exact c.rel_map (c.rel_readOption (rel_readTypeNames hv hg hn)) _
  · exact c.rel_map (c.rel_readOption (hr.rel_readText hg hn)) _
  · exact c.rel_map (c.rel_readOption (hread r r' hr)) _
  · exact c.rel_map (c.rel_readOption (hproperties r r' hr)) _
  · refine c.rel_map (c.rel_readOption ?_) _
    exact rel_readAdditional hg hn (hread .jsonValue .jsonValue hv)
  · refine c.rel_map (c.rel_readOption (hr.rel_readList hg hn fun m hm => ?_)) _
    obtain ⟨v, hvalue⟩ := hg.hasValue (hg.parts hn m hm)
    rw [readEnumValue_bare hvalue]
    exact c.refl _
  · obtain ⟨v, hvalue⟩ := hg.hasValue hn
    refine c.rel_map (c.rel_readOption ?_) _
    rw [readBool_bare hvalue]
    exact c.refl _
  · exact c.rel_map (c.rel_readOption (hr.rel_readText hg hn)) _
  · exact c.rel_map (c.rel_readOption (hr.rel_readText hg hn)) _
  · exact c.refl _

/-- **Results for a schema go together**, and so do those for properties. -/
theorem Schema.rel_read (hn : good n) :
    (∀ r r', c.Fits r r' good → c.rel (read r n) (read r' n.bare)) ∧
      ∀ r r', c.Fits r r' good → c.rel (readProperties r n) (readProperties r' n.bare) := by
  induction n using parts_induction with
  | h n ih =>
    have hparts : ∀ m ∈ n.parts, good m := hg.parts hn
    constructor <;> intro r r' hr
    · rw [read_eq_readRecord, read_eq_readRecord]
      refine hr.rel_readRecord hg hn empty fun name m hm s => ?_
      have hm := mem_parts_of_fieldParts hm
      obtain ⟨hread, hproperties⟩ := ih m hm (hparts m hm)
      exact rel_set hv hg hr (hparts m hm) name s hread hproperties
    · rw [readProperties_eq_readPairs, readProperties_eq_readPairs]
      refine c.rel_map (hr.rel_readPairs hg hn fun m hm => ?_) _
      have hm := mem_parts_of_memberParts hm
      exact (ih m hm (hparts m hm)).1 r r' hr

end Schemas

end OpenApi

end TypedRequests
