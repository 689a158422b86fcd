import TypedRequests.Proofs.BareReading

/-!
# Data of YAML text

* `YamlReader.Yields` : all that is read has a property.
* `YamlReader.IsLeaf`, `Node.made_ofYamlText?` : what the scalars in the data of YAML text are.
* `Node.faithful_ofYamlText?` : every string in the data of YAML text is its text.
-/

set_option autoImplicit false

namespace TypedRequests

namespace YamlReader

/-! ## Scalars -/

theorem integerValue_ne_string {n : Int} {s : String} : integerValue n ≠ some (.string s) := by
  unfold integerValue
  split <;> nofun

theorem faithful_of_not_string {l : Leaf} (h : ∀ s, l.value ≠ some (.string s)) : l.Faithful :=
  fun s hs => absurd hs (h s)

theorem faithful_string (text : String) : (Leaf.string text).Faithful := by
  intro s hs
  cases hs
  rfl

/-- A plain scalar that is a string is its text. -/
theorem faithful_plainLeaf (text : String) : (plainLeaf text).Faithful := by
  intro s hs
  have hvalue : plainValue text = some (.string s) := hs
  unfold plainValue at hvalue
  split at hvalue
  · cases hvalue
  · split at hvalue
    · cases hvalue
    · split at hvalue
      · exact absurd hvalue integerValue_ne_string
      · split at hvalue <;> cases hvalue
        rfl

theorem faithful_taggedLeaf (tag text : String) : (taggedLeaf tag text).Faithful := by
  intro s hs
  unfold taggedLeaf at hs ⊢
  dsimp only at hs ⊢
  split at hs
  · cases hbool : bool? text <;> rw [hbool] at hs <;> cases hs
  · obtain ⟨n, -, hn⟩ := Option.bind_eq_some_iff.1 hs
    exact absurd hn integerValue_ne_string
  · cases hreal : real? text.toList <;> rw [hreal] at hs <;> cases hs
  · split at hs <;> cases hs
  · cases hs
    rfl

/-- The scalar is made of a text, by what the text means or what a tag says it means. -/
inductive IsLeaf : Leaf → Prop where
  | plain (text : String) : IsLeaf (plainLeaf text)
  | quoted (text : String) : IsLeaf (.string text)
  | tagged (tag text : String) : IsLeaf (taggedLeaf tag text)
  | unreadable : IsLeaf .unreadable

theorem IsLeaf.faithful {l : Leaf} (h : IsLeaf l) : l.Faithful := by
  cases h with
  | plain text => exact faithful_plainLeaf text
  | quoted text => exact faithful_string text
  | tagged tag text => exact faithful_taggedLeaf tag text
  | unreadable => exact faithful_of_not_string nofun

/-- All scalars in the data are made of texts. -/
abbrev Made (n : Node) : Prop :=
  n.All IsLeaf

theorem made_scalarNode (tag : Option String) (text : String) (plain : Bool) :
    Made (scalarNode tag text plain) := by
  have huntagged : IsLeaf (if plain then plainLeaf text else .string text) := by
    split
    · exact .plain text
    · exact .quoted text
  unfold scalarNode
  dsimp only
  split
  · exact .leaf huntagged
  · split
    · exact .leaf huntagged
    · split
      · exact .tagged (.leaf huntagged)
      · exact .leaf (.tagged _ text)

theorem made_blank : Made blank :=
  .leaf (.plain "")

theorem made_unreadable : Made .unreadable :=
  .leaf .unreadable

theorem made_withTag (tag : Option String) {n : Node} (h : Made n) : Made (withTag tag n) := by
  unfold withTag
  split
  · split
    · exact .tagged h
    · exact h
  · exact h

theorem isLeaf_keyOf {n : Node} (h : Made n) : IsLeaf (keyOf n) := by
  induction h with
  | leaf h => exact h
  | tagged h ih => exact ih
  | list _ => exact .unreadable
  | record _ _ => exact .unreadable

/-! ## Readers -/

/-- The nodes with anchors are made of texts. -/
def Anchored (r : Reading) : Prop :=
  ∀ e ∈ r.anchors, Made e.2

/-- All that is read has the property, and nodes with anchors stay made of texts. -/
def Yields {α : Type} (P : α → Prop) (x : Reader α) : Prop :=
  ∀ r a r', Anchored r → x r = some (a, r') → P a ∧ Anchored r'

section Yields

variable {α β : Type} {P : α → Prop} {Q : β → Prop} {x : Reader α} {f : α → Reader β}

theorem Yields.pure {a : α} (h : P a) : Yields P (pure a : Reader α) := by
  intro r b r' hr hb
  cases hb
  exact ⟨h, hr⟩

theorem Yields.bind (hx : Yields P x) (hf : ∀ a, P a → Yields Q (f a)) : Yields Q (x >>= f) := by
  intro r b r'' hr hb
  obtain ⟨⟨a, r'⟩, ha, hb⟩ := Option.bind_eq_some_iff.1 hb
  obtain ⟨hPa, hr'⟩ := hx r a r' hr ha
  exact hf a hPa r' b r'' hr' hb

theorem yields_failure : Yields P (failure : Reader α) := by
  intro r a r' _ h
  cases h

/-- What only moves on in the tokens yields anything. -/
theorem yields_of_tokens (h : ∀ r a r', x r = some (a, r') → r'.anchors = r.anchors) :
    Yields (fun _ => True) x := by
  intro r a r' hr hx
  refine ⟨trivial, fun e he => hr e ?_⟩
  rwa [← h r a r' hx]

theorem yields_peek : Yields (fun _ => True) peek :=
  yields_of_tokens fun r a r' h => by cases h; rfl

theorem yields_pass : Yields (fun _ => True) pass :=
  yields_of_tokens fun r a r' h => by cases h; rfl

theorem yields_nextIn (ts : List YamlToken) : Yields (fun _ => True) (nextIn ts) := by
  refine yields_peek.bind fun t _ => ?_
  split <;> exact .pure trivial

theorem yields_passIf (t : YamlToken) : Yields (fun _ => True) (passIf t) := by
  refine yields_peek.bind fun next _ => ?_
  split
  · exact yields_pass.bind fun _ _ => .pure trivial
  · exact .pure trivial

theorem yields_aliased (name : String) : Yields Made (aliased name) := by
  intro r n r' hr h
  unfold aliased at h
  obtain ⟨m, hm, h⟩ := Option.map_eq_some_iff.1 h
  cases h
  obtain ⟨before, after, hanchors, -⟩ := List.lookup_eq_some_iff.1 hm
  have hmem : (name, n) ∈ r.anchors := by
    rw [hanchors]
    exact List.mem_append_right _ (List.mem_cons_self ..)
  exact ⟨hr _ hmem, hr⟩

theorem yields_define (name : String) {n : Node} (h : Made n) :
    Yields (fun _ => True) (define name n) := by
  intro r u r' hr hu
  cases hu
  exact ⟨trivial, List.forall_mem_cons.2 ⟨h, hr⟩⟩

theorem yields_properties : Yields (fun _ => True) properties := by
  unfold properties
  refine yields_peek.bind fun t _ => ?_
  split
  · refine yields_pass.bind fun _ _ => yields_peek.bind fun t _ => ?_
    split
    · exact yields_pass.bind fun _ _ => .pure trivial
    · exact .pure trivial
  · refine yields_pass.bind fun _ _ => yields_peek.bind fun t _ => ?_
    split
    · exact yields_pass.bind fun _ _ => .pure trivial
    · exact .pure trivial
  · exact .pure trivial

/-- Something that may be left out, before one of the tokens. -/
theorem Yields.orBlank {x : Reader Node} {f : Node → Reader β} (ts : List YamlToken)
    (hx : Yields Made x) (hf : ∀ n, Made n → Yields Q (f n)) :
    Yields Q (nextIn ts >>= fun b => if b = true then Pure.pure blank >>= f else x >>= f) := by
  refine (yields_nextIn ts).bind fun b _ => ?_
  split
  · exact (Yields.pure made_blank).bind hf
  · exact hx.bind hf

/-- A value, which may be left out, also with its mark. -/
theorem Yields.valueOrBlank {x : Reader Node} {f : Node → Reader β} (ts : List YamlToken)
    (hx : Yields Made x) (hf : ∀ n, Made n → Yields Q (f n)) :
    Yields Q (passIf .value >>= fun b =>
      if b = true then nextIn ts >>= fun b => if b = true then Pure.pure blank >>= f else x >>= f
      else Pure.pure blank >>= f) := by
  refine (yields_passIf .value).bind fun b _ => ?_
  split
  · exact .orBlank ts hx hf
  · exact (Yields.pure made_blank).bind hf

/-- What follows a comma, unless it comes first. -/
theorem Yields.parted {f : Bool → Reader β} (first : Bool) (hf : ∀ b, Yields Q (f b)) :
    Yields Q (if first = true then Pure.pure true >>= f else passIf .comma >>= f) := by
  split
  · exact (Yields.pure trivial : Yields (fun _ => True) _).bind fun b _ => hf b
  · exact (yields_passIf .comma).bind fun b _ => hf b

end Yields

/-! ## Nodes -/

/-- The items are made of texts. -/
def ItemsMade (ns : List Node) : Prop :=
  ∀ n ∈ ns, Made n

/-- The entries are made of texts. -/
def EntriesMade (es : List (Leaf × Node)) : Prop :=
  ∀ e ∈ es, IsLeaf e.1 ∧ Made e.2

/-- All that is read with so much fuel is made of texts. -/
structure YieldsAt (fuel : Nat) : Prop where
  node (inFlow dashes : Bool) : Yields Made (node fuel inFlow dashes)
  content (inFlow dashes mayBeBlank : Bool) (tag : Option String) :
    Yields Made (content fuel inFlow dashes mayBeBlank tag)
  blockItems : Yields ItemsMade (blockItems fuel)
  dashItems : Yields ItemsMade (dashItems fuel)
  blockEntries : Yields EntriesMade (blockEntries fuel)
  flowItems (first : Bool) : Yields ItemsMade (flowItems fuel first)
  flowEntries (first : Bool) : Yields EntriesMade (flowEntries fuel first)

theorem yieldsAt_zero : YieldsAt 0 where
  node _ _ := yields_failure
  content _ _ _ _ := yields_failure
  blockItems := yields_failure
  dashItems := yields_failure
  blockEntries := yields_failure
  flowItems _ := yields_failure
  flowEntries _ := yields_failure

variable {fuel : Nat}

theorem YieldsAt.node_succ (h : YieldsAt fuel) (inFlow dashes : Bool) :
    Yields Made (YamlReader.node (fuel + 1) inFlow dashes) := by
  unfold YamlReader.node
  refine yields_peek.bind fun t _ => ?_
  split
  · exact yields_pass.bind fun _ _ => yields_aliased _
  · refine yields_properties.bind fun ⟨anchor, tag⟩ _ => ?_
    cases anchor with
    | none => exact (h.content _ _ _ _).bind fun n hn => .pure hn
    | some a =>
      refine (yields_define a made_unreadable).bind fun _ _ => ?_
      exact (h.content _ _ _ _).bind fun n hn => (yields_define a hn).bind fun _ _ => .pure hn

theorem YieldsAt.content_succ (h : YieldsAt fuel) (inFlow dashes mayBeBlank : Bool)
    (tag : Option String) :
    Yields Made (YamlReader.content (fuel + 1) inFlow dashes mayBeBlank tag) := by
  have hlist : ∀ ns, ItemsMade ns → Made (withTag tag (.list ns)) :=
    fun ns hns => made_withTag tag (.list hns)
  have hrecord : ∀ es, EntriesMade es → Made (withTag tag (.record es)) :=
    fun es hes => made_withTag tag (.record (fun e he => (hes e he).1) fun e he => (hes e he).2)
  unfold YamlReader.content
  refine yields_peek.bind fun t _ => ?_
  split
  · exact yields_pass.bind fun _ _ => .pure (made_scalarNode ..)
  · exact yields_pass.bind fun _ _ => (h.flowItems true).bind fun ns hns => .pure (hlist ns hns)
  · exact yields_pass.bind fun _ _ => (h.flowEntries true).bind fun es hes => .pure (hrecord es hes)
  · exact yields_pass.bind fun _ _ => h.blockItems.bind fun ns hns => .pure (hlist ns hns)
  · exact yields_pass.bind fun _ _ => h.blockEntries.bind fun es hes => .pure (hrecord es hes)
  · split
    · exact h.dashItems.bind fun ns hns => .pure (hlist ns hns)
    · split
      · exact .pure (made_scalarNode ..)
      · exact yields_failure

/-- A further item. -/
theorem yields_cons {α : Type} {P : α → Prop} {a : α} {x : Reader (List α)} (ha : P a)
    (hx : Yields (fun as => ∀ a ∈ as, P a) x) :
    Yields (fun as => ∀ a ∈ as, P a) (do return a :: (← x)) :=
  hx.bind fun _ has => .pure (List.forall_mem_cons.2 ⟨ha, has⟩)

theorem YieldsAt.blockItems_succ (h : YieldsAt fuel) :
    Yields ItemsMade (YamlReader.blockItems (fuel + 1)) := by
  unfold YamlReader.blockItems
  refine (yields_passIf _).bind fun ended _ => ?_
  split
  · exact .pure nofun
  · refine (yields_passIf _).bind fun begun _ => ?_
    split
    · exact .orBlank _ (h.node false false) fun n hn => yields_cons hn h.blockItems
    · exact yields_failure

theorem YieldsAt.dashItems_succ (h : YieldsAt fuel) :
    Yields ItemsMade (YamlReader.dashItems (fuel + 1)) := by
  unfold YamlReader.dashItems
  refine (yields_passIf _).bind fun begun _ => ?_
  split
  · exact .orBlank _ (h.node false false) fun n hn => yields_cons hn h.dashItems
  · exact .pure nofun

theorem YieldsAt.blockEntries_succ (h : YieldsAt fuel) :
    Yields EntriesMade (YamlReader.blockEntries (fuel + 1)) := by
  unfold YamlReader.blockEntries
  refine (yields_passIf _).bind fun ended _ => ?_
  split
  · exact .pure nofun
  · refine (yields_passIf _).bind fun begun _ => ?_
    split
    · refine .orBlank _ (h.node false true) fun k hk => ?_
      refine .valueOrBlank _ (h.node false true) fun n hn => ?_
      exact yields_cons ⟨isLeaf_keyOf hk, hn⟩ h.blockEntries
    · exact yields_failure

/-- An item of a list in brackets can be an entry, which is a record. -/
theorem made_entry {k n : Node} (hk : Made k) (hn : Made n) :
    Made (.record [(keyOf k, n)]) := by
  refine .record ?_ ?_
  · exact List.forall_mem_singleton.2 (isLeaf_keyOf hk)
  · exact List.forall_mem_singleton.2 hn

theorem YieldsAt.flowItems_succ (h : YieldsAt fuel) (first : Bool) :
    Yields ItemsMade (YamlReader.flowItems (fuel + 1) first) := by
  unfold YamlReader.flowItems
  refine (yields_passIf _).bind fun ended _ => ?_
  split
  · exact .pure nofun
  refine .parted first fun parted => ?_
  beta_reduce
  split
  · exact yields_failure
  refine (yields_passIf _).bind fun ended _ => ?_
  split
  · exact .pure nofun
  refine (yields_passIf _).bind fun keyed _ => ?_
  split
  · refine .orBlank _ (h.node true false) fun k hk => ?_
    refine .valueOrBlank _ (h.node true false) fun n hn => ?_
    exact yields_cons (made_entry hk hn) (h.flowItems false)
  · exact (h.node true false).bind fun n hn => yields_cons hn (h.flowItems false)

theorem YieldsAt.flowEntries_succ (h : YieldsAt fuel) (first : Bool) :
    Yields EntriesMade (YamlReader.flowEntries (fuel + 1) first) := by
  unfold YamlReader.flowEntries
  refine (yields_passIf _).bind fun ended _ => ?_
  split
  · exact .pure nofun
  refine .parted first fun parted => ?_
  beta_reduce
  split
  · exact yields_failure
  refine (yields_passIf _).bind fun ended _ => ?_
  split
  · exact .pure nofun
  refine (yields_passIf _).bind fun keyed _ => ?_
  split
  · refine .orBlank _ (h.node true false) fun k hk => ?_
    refine .valueOrBlank _ (h.node true false) fun n hn => ?_
    exact yields_cons ⟨isLeaf_keyOf hk, hn⟩ (h.flowEntries false)
  · refine (h.node true false).bind fun k hk => ?_
    exact yields_cons ⟨isLeaf_keyOf hk, made_blank⟩ (h.flowEntries false)

/-- **All that is read is made of texts**, with whatever fuel. -/
theorem yieldsAt (fuel : Nat) : YieldsAt fuel := by
  induction fuel with
  | zero => exact yieldsAt_zero
  | succ fuel h =>
    exact ⟨h.node_succ, h.content_succ, h.blockItems_succ, h.dashItems_succ, h.blockEntries_succ,
      h.flowItems_succ, h.flowEntries_succ⟩

/-! ## Documents -/

theorem yields_endMarks (n : Nat) : Yields (fun _ => True) (document.endMarks n) := by
  induction n with
  | zero => exact .pure trivial
  | succ n ih =>
    unfold document.endMarks
    refine (yields_passIf _).bind fun b _ => ?_
    split
    · exact ih
    · exact .pure trivial

/-- The end of a document with the given data. -/
def documentEnd (fuel : Nat) (n : Node) : Reader Node := do
  document.endMarks fuel
  match ← peek with
  | none => return n
  | some _ => failure

theorem yields_document (fuel : Nat) : Yields Made (document fuel) := by
  have hend : ∀ n : Node, Made n → Yields Made (documentEnd fuel n) := by
    intro n hn
    unfold documentEnd
    refine (yields_endMarks fuel).bind fun _ _ => yields_peek.bind fun t _ => ?_
    split
    · exact .pure hn
    · exact yields_failure
  unfold document
  refine (yields_passIf _).bind fun marked _ => yields_peek.bind fun t _ => ?_
  dsimp only
  split
  · exact hend _ made_blank
  · split
    · exact hend _ made_blank
    · exact yields_failure
  · exact hend _ made_blank
  · exact ((yieldsAt fuel).node false false).bind hend

end YamlReader

/-- **All scalars in the data of YAML text are made of texts.** -/
theorem Node.made_ofYamlText? {text : String} {n : Node} (h : Node.ofYamlText? text = some n) :
    YamlReader.Made n := by
  obtain ⟨tokens, -, h⟩ := Option.bind_eq_some_iff.1 h
  dsimp only at h
  split at h
  · rename_i m r hm
    cases h
    have hempty : YamlReader.Anchored ⟨tokens, []⟩ := fun e he => absurd he List.not_mem_nil
    exact (YamlReader.yields_document _ _ _ _ hempty hm).1
  · cases h

/-- **Every string in the data of YAML text is its text.** -/
theorem Node.faithful_ofYamlText? {text : String} {n : Node} (h : Node.ofYamlText? text = some n) :
    n.Faithful :=
  (made_ofYamlText? h).mono fun _ hl => hl.faithful

end TypedRequests
