import TypedRequests.Proofs.Comparisons

/-!
# Reading bare data

What is left out of bare data matters to the rules of YAML alone, and also there it changes no
document that can be read without it.

* `readParameterEntry_bare` : parameters of plain data.
* `Node.Faithful` : every string in the data is its text.
* `Document.agree_read` : documents.
-/

set_option autoImplicit false

namespace TypedRequests

open Node OpenApi

namespace Node

variable {ns : List Node} {es : List (Leaf × Node)} {e : Leaf × Node} {n : Node}

/-- The data has a value. -/
def Valued (n : Node) : Prop :=
  ∃ v, n.HasValue v

theorem Valued.item (h : (list ns).Valued) (hn : n ∈ ns) : n.Valued := by
  obtain ⟨v, hv⟩ := h
  obtain ⟨vs, hvs, rfl⟩ := hasValue_list.1 hv
  obtain ⟨w, -, hw⟩ := exists_of_mem_right hvs.flip hn
  exact ⟨w, hw⟩

theorem Valued.entry (h : (record es).Valued) (he : e ∈ es) :
    (∃ name, e.1.text = some name) ∧ e.2.Valued := by
  obtain ⟨v, hv⟩ := h
  obtain ⟨ms, hms, rfl⟩ := hasValue_record.1 hv
  obtain ⟨m, -, hm⟩ := exists_of_mem_right hms.flip he
  exact ⟨⟨m.1, hm.1⟩, m.2, hm.2⟩

end Node

/-! ## Plain data -/

/-- The data is plain and has a value. -/
structure Node.PlainValue (n : Node) : Prop where
  plain : n.isPlain = true
  valued : n.Valued

namespace Node.PlainValue

theorem hereditary : Hereditary PlainValue where
  item h hn := ⟨isPlain_list.1 h.plain _ hn, h.valued.item hn⟩
  member h he := ⟨(isPlain_record.1 h.plain).2.2 _ he, (h.valued.entry he).2⟩
  hasValue h := h.valued

/-- The keys of plain data are strings. -/
theorem key {es : List (Leaf × Node)} (h : PlainValue (record es)) :
    ∀ e ∈ es, ∃ s, e.1 = .string s :=
  fun e he => Leaf.isString_iff.1 ((isPlain_record.1 h.plain).1 e he)

/-- To the rules of JSON values it makes no difference whether plain data is bare. -/
theorem fits : Comparison.equal.Fits .jsonValue .jsonValue PlainValue where
  text h := by
    obtain ⟨v, hv⟩ := h.valued
    exact (readText_bare hv).symm
  blank x wanted _ := (wrongLeaf_bare _ wanted).symm
  positions _ h := h
  surplus _ := rfl
  key h he := by
    obtain ⟨s, hs⟩ := h.key _ he
    rw [hs]
    rfl
  named {_ _ name} h he hname := by
    obtain ⟨s, hs⟩ := h.key _ he
    rw [hs] at hname ⊢
    obtain rfl := Except.ok.inj ((Rules.key_string .jsonValue s).symm.trans hname)
    rfl

end Node.PlainValue

namespace OpenApi

variable {n : Node}

theorem isUnit_bare (n : Node) : isUnit n.bare = isUnit n := by
  cases n with
  | record es => cases es <;> rfl
  | leaf l => exact isNull_bare (leaf l)
  | _ => rfl

theorem wrongNode_bare {α : Type} (h : n.Valued) (wanted : Wanted) :
    wrongNode (α := α) wanted n.bare = wrongNode wanted n := by
  obtain ⟨v, hv⟩ := h
  cases n with
  | leaf l => exact wrongLeaf_bare l wanted
  | tagged n => exact absurd hv not_hasValue_tagged
  | _ => rfl

theorem readLocation_bare (h : n.PlainValue) : readLocation n.bare = readLocation n := by
  have htext : (readText .jsonValue n.bare).map Location.ofName =
      (readText .jsonValue n).map Location.ofName := by
    obtain ⟨v, hv⟩ := h.valued
    rw [readText_bare hv]
  match n with
  | .record [(k, m)] =>
    obtain ⟨s, hs⟩ := h.key (k, m) (List.mem_singleton.2 rfl)
    obtain rfl : k = .string s := hs
    have hm := wrongNode_bare (α := Location) (h.valued.entry (List.mem_singleton.2 rfl)).2 .text
    change (if isUnit m.bare then _ else wrongNode .text m.bare) = _
    rw [isUnit_bare, hm]
    rfl
  | .record [] => exact htext
  | .record (_ :: _ :: _) => exact htext
  | .leaf l => exact htext
  | .list ns => exact htext
  | .tagged m => exact htext

theorem Parameter.read_bare (h : n.PlainValue) : Parameter.read n.bare = Parameter.read n := by
  refine (PlainValue.fits.rel_readRecord PlainValue.hereditary h _ fun name m hpart p => ?_).symm
  have hm := PlainValue.hereditary.parts h m (mem_parts_of_fieldParts hpart)
  have htext := PlainValue.fits.rel_readText PlainValue.hereditary hm
  have hschema := (Schema.rel_read PlainValue.fits PlainValue.hereditary hm).1 _ _ PlainValue.fits
  obtain ⟨v, hv⟩ := hm.valued
  unfold setField
  split
  · exact Comparison.equal.rel_map htext _
  · rw [readLocation_bare hm]
    rfl
  · exact Comparison.equal.rel_map (Comparison.equal.rel_readOption htext) _
  · rw [readBool_bare hv]
    rfl
  · exact Comparison.equal.rel_map (Comparison.equal.rel_readOption hschema) _
  · rfl

theorem readReference_bare (h : n.PlainValue) : readReference n.bare = readReference n := by
  cases n with
  | record es =>
    refine (Comparison.equal.rel_readFields (fun e he => ?_) fun e he name _ _ => ?_).symm
    · exact PlainValue.fits.key h he
    · obtain ⟨v, hv⟩ := (PlainValue.hereditary.member h he).valued
      exact (readText_bare hv).symm
  | leaf l => exact wrongNode_bare h.valued _
  | list ns => exact wrongNode_bare h.valued _
  | tagged m => exact wrongNode_bare h.valued _

/-- **Bare or not, plain data is read as the same entry of a parameter list.** -/
theorem readParameterEntry_bare (h : n.PlainValue) :
    readParameterEntry n.bare = readParameterEntry n := by
  obtain ⟨v, hv⟩ := h.valued
  have hvalue : n.bare.toJson? = n.toJson? := hv.bare.trans hv.symm
  rw [readParameterEntry, hvalue, readReference_bare h, Parameter.read_bare h, readParameterEntry]

end OpenApi

/-! ## Faithful data -/

/-- If the scalar is a string, this is its text. -/
def Leaf.Faithful (l : Leaf) : Prop :=
  ∀ s, l.value = some (.string s) → l.text = some s

/-- Every string in the data is its text. -/
abbrev Node.Faithful (n : Node) : Prop :=
  n.All Leaf.Faithful

theorem readText_leaf_eq_ok {rules : Rules} {l : Leaf} {s : String} :
    readText rules (.leaf l) = .ok s ↔ rules.textOf? l = some s := by
  rw [readText]
  cases rules.textOf? l with
  | none => simp [wrongLeaf_ne_ok]
  | some t => simp

theorem Rules.key_eq_ok {rules : Rules} {k : Leaf} {name : String} :
    rules.key k = .ok name ↔ rules.textOf? k = some name := by
  unfold key
  cases rules.textOf? k <;> simp

/-- Rules by which only strings stand for texts. -/
theorem textOf?_eq_some {rules : Rules} (h : rules.scalarText = false) {l : Leaf} {s : String} :
    rules.textOf? l = some s ↔ l.value = some (.string s) := by
  rw [Rules.textOf?, h, if_neg Bool.false_ne_true]
  split <;> simp_all

/-- The data is faithful and has a value. -/
structure Node.FaithfulValue (n : Node) : Prop where
  faithful : n.Faithful
  valued : n.Valued

namespace Node.FaithfulValue

theorem leaf_faithful {l : Leaf} (h : FaithfulValue (leaf l)) : l.Faithful := by
  cases h.faithful with
  | leaf hl => exact hl

theorem key_faithful {es : List (Leaf × Node)} {e : Leaf × Node} (h : FaithfulValue (record es))
    (he : e ∈ es) : e.1.Faithful := by
  cases h.faithful with
  | record hkeys _ => exact hkeys e he

theorem hereditary : Hereditary FaithfulValue where
  item h hn := by
    refine ⟨?_, h.valued.item hn⟩
    cases h.faithful with
    | list hns => exact hns _ hn
  member h he := by
    refine ⟨?_, (h.valued.entry he).2⟩
    cases h.faithful with
    | record _ hes => exact hes _ he
  hasValue h := h.valued

/-- The rules of JSON text agree on bare data with those of YAML. -/
theorem fits_yaml : Comparison.agree.Fits .yaml .jsonText FaithfulValue where
  text {l} h a b ha hb := by
    have htext : l.text = some a := readText_leaf_eq_ok.1 ha
    have hvalue := (textOf?_eq_some rfl).1 (readText_leaf_eq_ok.1 hb)
    rw [Leaf.value_bare] at hvalue
    exact Option.some.inj (htext.symm.trans (h.leaf_faithful b hvalue))
  blank x wanted _ a b _ hb := absurd hb (wrongLeaf_ne_ok _ _)
  positions e h a b ha hb := by cases ha
  surplus _ _ _ ha _ := by cases ha
  key {_ e} h he a b ha hb := by
    have htext : e.1.text = some a := Rules.key_eq_ok.1 ha
    rw [Leaf.bareKey, htext] at hb
    exact Except.ok.inj ((Rules.key_string .jsonText a).symm.trans hb)
  named h he hname := Rules.key_eq_ok.1 hname

/-- The rules of JSON values agree on bare data with themselves. -/
theorem fits_jsonValue : Comparison.agree.Fits .jsonValue .jsonValue FaithfulValue where
  text {l} h := by
    obtain ⟨v, hv⟩ := h.valued
    intro a b ha hb
    exact Except.ok.inj (ha.symm.trans ((readText_bare hv).symm.trans hb))
  blank x wanted _ a b _ hb := absurd hb (wrongLeaf_ne_ok _ _)
  positions _ h := h
  surplus _ _ _ ha _ := by cases ha
  key {_ e} h he a b ha hb := by
    have htext := h.key_faithful he a ((textOf?_eq_some rfl).1 (Rules.key_eq_ok.1 ha))
    rw [Leaf.bareKey, htext] at hb
    exact Except.ok.inj ((Rules.key_string .jsonValue a).symm.trans hb)
  named {_ _ name} h he hname :=
    h.key_faithful he name ((textOf?_eq_some rfl).1 (Rules.key_eq_ok.1 hname))

end Node.FaithfulValue

/-! ## Documents -/

namespace OpenApi

open Comparison

variable {n : Node}

/-- Text is read of the parts of faithful data alike. -/
theorem agree_readText (h : n.FaithfulValue) :
    agree.rel (readText .yaml n) (readText .jsonText n.bare) :=
  FaithfulValue.fits_yaml.rel_readText FaithfulValue.hereditary h

theorem PathItem.agree_read (h : n.FaithfulValue) :
    agree.rel (PathItem.read .yaml n) (PathItem.read .jsonText n.bare) := by
  refine agree.bind (FaithfulValue.fits_yaml.rel_readPairs FaithfulValue.hereditary h
    fun m hm a b ha hb => ?_) fun ms _ => agree.refl _
  have ha := (readValue_eq_ok.1 ha).bare
  exact Option.some.inj (ha.symm.trans (readValue_eq_ok.1 hb))

theorem Info.agree_read (h : n.FaithfulValue) :
    agree.rel (Info.read .yaml n) (Info.read .jsonText n.bare) := by
  refine FaithfulValue.fits_yaml.rel_readRecord FaithfulValue.hereditary h _ fun name m hpart a => ?_
  have hm := FaithfulValue.hereditary.parts h m (mem_parts_of_fieldParts hpart)
  split
  · exact agree.rel_map (agree_readText hm) _
  · exact agree.rel_map (agree_readText hm) _
  · exact agree.refl _

theorem Tag.agree_read (h : n.FaithfulValue) :
    agree.rel (Tag.read .yaml n) (Tag.read .jsonText n.bare) := by
  refine FaithfulValue.fits_yaml.rel_readRecord FaithfulValue.hereditary h _ fun name m hpart a => ?_
  have hm := FaithfulValue.hereditary.parts h m (mem_parts_of_fieldParts hpart)
  split
  · exact agree.rel_map (agree_readText hm) _
  · exact agree.rel_map (agree_readText hm) _
  · exact agree.refl _

theorem Components.agree_read (h : n.FaithfulValue) (hnamed : ∀ e ∈ namedParts n, e.isPlain = true) :
    agree.rel (Components.read .yaml n) (Components.read .jsonText n.bare) := by
  refine FaithfulValue.fits_yaml.rel_readRecord FaithfulValue.hereditary h _ fun name m hpart a => ?_
  have hm := FaithfulValue.hereditary.parts h m (mem_parts_of_fieldParts hpart)
  split
  · refine agree.rel_map (agree.rel_readOption ?_) _
    refine FaithfulValue.fits_yaml.rel_readMap FaithfulValue.hereditary hm fun s hs => ?_
    have hs := FaithfulValue.hereditary.parts hm s (mem_parts_of_memberParts hs)
    exact (Schema.rel_read FaithfulValue.fits_jsonValue FaithfulValue.hereditary hs).1 _ _
      FaithfulValue.fits_yaml
  · refine agree.rel_map (FaithfulValue.fits_yaml.rel_readMap FaithfulValue.hereditary hm ?_) _
    intro e he
    have hplain : e.isPlain = true := hnamed e (List.mem_flatMap.2 ⟨m, hpart, he⟩)
    have hvalued := (FaithfulValue.hereditary.parts hm e (mem_parts_of_memberParts he)).valued
    rw [readParameterEntry_bare ⟨hplain, hvalued⟩]
    exact agree.refl _
  · exact agree.refl _

/-- **A document that is read by the rules of YAML is the one that is read bare**, if it can be read
bare by the rules of JSON text and the data of named parameters is plain. -/
theorem Document.agree_read (h : n.FaithfulValue) (hnamed : ∀ e ∈ namedParts n, e.isPlain = true) :
    agree.rel (Document.read .yaml n) (Document.read .jsonText n.bare) := by
  refine FaithfulValue.fits_yaml.rel_readRecord FaithfulValue.hereditary h _ fun name m hpart a => ?_
  have hm := FaithfulValue.hereditary.parts h m (mem_parts_of_fieldParts hpart)
  unfold setField
  split
  · exact agree.rel_map (agree.rel_readOption (agree_readText hm)) _
  · exact agree.rel_map (agree.rel_readOption (Info.agree_read hm)) _
  · refine agree.rel_map (FaithfulValue.fits_yaml.rel_readMap FaithfulValue.hereditary hm ?_) _
    intro p hp
    have hp := FaithfulValue.hereditary.parts hm p (mem_parts_of_memberParts hp)
    exact PathItem.agree_read hp
  · refine agree.rel_map (agree.rel_readOption (Components.agree_read hm fun e he => ?_)) _
    exact hnamed e (List.mem_flatMap.2 ⟨m, hpart, he⟩)
  · refine agree.rel_map (agree.rel_readOption ?_) _
    refine FaithfulValue.fits_yaml.rel_readList FaithfulValue.hereditary hm fun t ht => ?_
    exact Tag.agree_read (FaithfulValue.hereditary.parts hm t ht)
  · exact agree.refl _

end OpenApi

end TypedRequests
