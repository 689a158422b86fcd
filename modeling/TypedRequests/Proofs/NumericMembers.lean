import TypedRequests.Proofs.DataNumbers
import TypedRequests.Proofs.Declarations
import TypedRequests.Proofs.FieldValues
import TypedRequests.Proofs.NamedTypes
import TypedRequests.Proofs.Numerals

/-!
# Numbers among the members of enums

The values that a named schema lists are the members of an enum. Numbers among them are printed as
numerals: integers exactly, and floating-point numbers such that the numeral is read as the same
number. There is no numeral for the infinities and for the value that is no number. YAML text has
words for these; JSON text has none.

* `Node.scalar?`, `Node.isSpecial` : a listed item as a number.
* `PrintsNumber` : what is printed for a listed item that is a number.
* `Enumeration.PrintsNumbers` : an enum prints the numbers of a named schema.
* `numeric_members_printed` : the enums of all documents do.
* `infinity_printed` : an infinity is printed as a word.
-/

set_option autoImplicit false

namespace TypedRequests

/-! ## Listed items -/

namespace Node

/-- The meaning of a scalar. -/
def scalar? : Node → Option Scalar
  | leaf l => l.value
  | _ => none

/-- The node is a number. -/
def isNumber (n : Node) : Bool :=
  n.scalar?.any Scalar.isNumber

/-- The node is written as something that is not finite. -/
def isSpecial : Node → Bool
  | leaf l => l.isSpecial
  | _ => false

end Node

/-- The value is an integer or a floating-point number. -/
def TypeScript.Literal.isNumber : TypeScript.Literal → Bool
  | integer _ | real _ => true
  | _ => false

namespace OpenApi

open TypeScript

/-- Integers of 64 bits with a sign are kept, greater ones are rounded. -/
def integerLiteral (k : Int) : Literal :=
  if fitsSigned 64 k then .integer k else .real (Binary64.ofInt k)

theorem literal_ofJson_integer (k : Int) :
    (EnumValue.ofJson (.scalar (.integer k))).literal = integerLiteral k := by
  have hvalue : EnumValue.ofJson (.scalar (.integer k)) =
      if fitsSigned 64 k then .integer k else .real (Binary64.ofInt k) := rfl
  rw [hvalue, integerLiteral]
  split <;> rfl

theorem isNumber_integerLiteral (k : Int) : (integerLiteral k).isNumber = true := by
  unfold integerLiteral
  split <;> rfl

/-- How a listed item and the literal of its value agree. -/
structure ListedAs (n : Node) (v : Literal) : Prop where
  isNumber : v.isNumber = n.isNumber
  integer : ∀ k, n.scalar? = some (.integer k) → v = integerLiteral k
  real : ∀ x, n.scalar? = some (.real x) → v = .real x

/-- An item that is no number is listed as something else. -/
theorem listedAs_of_not_number {n : Node} {v : Literal} (hv : v.isNumber = false)
    (hn : n.isNumber = false) : ListedAs n v := by
  refine ⟨hv.trans hn.symm, fun k hk => ?_, fun x hx => ?_⟩
  · rw [Node.isNumber, hk] at hn
    cases hn
  · rw [Node.isNumber, hx] at hn
    cases hn

theorem listedAs_leaf {text : Option String} {s : Scalar} {v : EnumValue}
    (h : readEnumValue (.leaf ⟨text, some s⟩) = .ok v) :
    ListedAs (.leaf ⟨text, some s⟩) v.literal := by
  cases s with
  | real x =>
    cases h
    exact ⟨rfl, nofun, fun y hy => congrArg _ (Scalar.real.inj (Option.some.inj hy))⟩
  | integer k =>
    cases h
    change ListedAs _ (EnumValue.ofJson (.scalar (.integer k))).literal
    rw [literal_ofJson_integer]
    refine ⟨isNumber_integerLiteral k, fun k' hk => ?_, nofun⟩
    rw [Scalar.integer.inj (Option.some.inj hk)]
  | null | bool | string =>
    cases h
    exact listedAs_of_not_number rfl rfl

theorem readEnumValue_of_not_leaf {n : Node} {v : EnumValue}
    (h : readEnumValue n = .ok v) (hn : ∀ l, n ≠ .leaf l) : ∃ w, n.HasValue w ∧ v = .ofJson w := by
  unfold readEnumValue at h
  split at h
  · exact absurd rfl (hn _)
  · split at h
    · cases h
      exact ⟨_, ‹_›, rfl⟩
    · cases h

/-- **A listed item is a number exactly if the literal of its value is**, and it is the same one. -/
theorem listedAs_of_readEnumValue {n : Node} {v : EnumValue} (h : readEnumValue n = .ok v) :
    ListedAs n v.literal := by
  cases n with
  | leaf l =>
    obtain ⟨text, value⟩ := l
    cases value with
    | none => cases h
    | some s => exact listedAs_leaf h
  | list ns =>
    obtain ⟨_, hvalue, rfl⟩ := readEnumValue_of_not_leaf h nofun
    obtain ⟨vs, -, rfl⟩ := Node.hasValue_list.1 hvalue
    exact listedAs_of_not_number rfl rfl
  | record es =>
    obtain ⟨_, hvalue, rfl⟩ := readEnumValue_of_not_leaf h nofun
    obtain ⟨ms, -, rfl⟩ := Node.hasValue_record.1 hvalue
    exact listedAs_of_not_number rfl rfl
  | tagged n =>
    obtain ⟨_, hvalue, -⟩ := readEnumValue_of_not_leaf h nofun
    exact absurd hvalue Node.not_hasValue_tagged

/-! ## Printed items -/

/-- What is printed for a listed item that is a number. -/
structure PrintsNumber (n : Node) (v : Literal) : Prop extends ListedAs n v where
  /-- An integer is that of the item, and it is printed exactly. -/
  exact : ∀ k, v = .integer k → n.scalar? = some (.integer k) ∧ IsNumeralOf k v.text
  /-- A finite floating-point number is the nearest one to what is printed. -/
  nearest : ∀ x, v = .real x → n.isSpecial = false → IsNumeralNearest x v.text
  /-- A number is printed as a numeral unless it is written as something that is not finite. -/
  numeral : n.isNumber = true → (IsNumeral v.text ↔ n.isSpecial = false)

namespace ListedAs

variable {n : Node} {v : Literal} {x : Binary64} {k : Int}

theorem exists_scalar (h : ListedAs n v) (hv : v.isNumber = true) :
    ∃ s, n.scalar? = some s ∧ s.isNumber = true := by
  rw [h.isNumber] at hv
  exact (Option.any_eq_true _ _).1 hv

/-- What is listed as an integer is this integer. -/
theorem scalar?_eq_integer (h : ListedAs n (.integer k)) : n.scalar? = some (.integer k) := by
  obtain ⟨s, hs, hkind⟩ := h.exists_scalar rfl
  cases s with
  | integer k' =>
    have hliteral := h.integer k' hs
    unfold integerLiteral at hliteral
    split at hliteral
    · rw [hs, Literal.integer.inj hliteral]
    · cases hliteral
  | real x => cases h.real x hs
  | null | bool | string => cases hkind

/-- Where numbers fit, finite floating-point numbers are in range; an integer is one of them after
rounding. -/
theorem ranged (h : ListedAs n (.real x)) (hfits : n.All Leaf.NumbersFit)
    (hplain : n.isSpecial = false) : x.Ranged := by
  obtain ⟨s, hs, hkind⟩ := h.exists_scalar rfl
  cases hfits with
  | leaf hfits =>
    cases s with
    | integer k =>
      have hliteral := h.integer k hs
      unfold integerLiteral at hliteral
      split at hliteral
      · cases hliteral
      · rw [Literal.real.inj hliteral]
        exact DecimalLiteral.ranged_word _ (hfits.integer k hs).1.natAbs_le
    | real y =>
      rw [Literal.real.inj (h.real y hs)]
      exact hfits.finite y hs hplain
    | null | bool | string => cases hkind
  | list | record | tagged => cases hs

/-- What is written as something that is not finite is not printed as a numeral. -/
theorem not_isNumeral (h : ListedAs n v) (hfits : n.All Leaf.NumbersFit)
    (hnumber : n.isNumber = true) (hspecial : n.isSpecial = true) : ¬ IsNumeral v.text := by
  obtain ⟨s, hs, hkind⟩ := (Option.any_eq_true _ _).1 hnumber
  cases hfits with
  | leaf hfits =>
    cases s with
    | integer k => exact absurd hspecial (Bool.eq_false_iff.1 (hfits.integer k hs).2)
    | real x =>
      rw [h.real x hs]
      exact not_isNumeral_write (hfits.special x hs hspecial)
    | null | bool | string => cases hkind
  | list | record | tagged => cases hs

end ListedAs

/-- **Where numbers fit, a listed number is printed as a numeral**, unless it is written as
something that is not finite. -/
theorem printsNumber {n : Node} {v : EnumValue} (h : readEnumValue n = .ok v)
    (hfits : n.All Leaf.NumbersFit) : PrintsNumber n v.literal := by
  have hlisted := listedAs_of_readEnumValue h
  generalize v.literal = v at hlisted ⊢
  have hexact : ∀ k, v = .integer k → n.scalar? = some (.integer k) ∧ IsNumeralOf k v.text := by
    rintro k rfl
    exact ⟨hlisted.scalar?_eq_integer, isNumeralOf_integerText k⟩
  have hnearest : ∀ x, v = .real x → n.isSpecial = false → IsNumeralNearest x v.text := by
    rintro x rfl hplain
    exact isNumeralNearest_write (hlisted.ranged hfits hplain)
  refine ⟨hlisted, hexact, hnearest, fun hnumber => ?_⟩
  cases hspecial : n.isSpecial with
  | true => exact iff_of_false (hlisted.not_isNumeral hfits hnumber hspecial) Bool.noConfusion
  | false =>
    refine iff_of_true ?_ rfl
    rw [← hlisted.isNumber] at hnumber
    cases v with
    | integer k => exact (hexact k rfl).2.isNumeral
    | real x => exact (hnearest x rfl hspecial).isNumeral
    | _ => cases hnumber

/-! ## Printed enums -/

/-- The enum of a named schema has one member for each item that the data lists for this schema, and
the numbers among the items are printed. -/
def PrintsNumbers (rules : Rules) (data : Node) (d : Enumeration) : Prop :=
  ∃ key items, data.Lists rules key items ∧ d.name = Naming.withoutQuotes key ∧
    List.Forall₂ (fun n m => PrintsNumber n m.value) items d.members

/-- Members stand for the listed values one by one. -/
theorem forall₂_enumMembersFrom {R : Node → Literal → Prop} {items : List Node}
    {vs : List EnumValue} (h : List.Forall₂ (fun n v => R n v.literal) items vs) (start : Nat) :
    List.Forall₂ (fun n m => R n m.value) items (enumMembersFrom start vs) := by
  induction h generalizing start with
  | nil => exact .nil
  | cons hfirst _ ih => exact .cons hfirst (ih (start + 1))

open Request in
/-- The enums of a document print numbers where the numbers in its data fit. -/
theorem printsNumbers_of_read {rules : Rules} {data : Node} {d : Document} {notices : List Notice}
    {module : Module} {e : Enumeration} (hfits : data.All Leaf.NumbersFit)
    (hread : Document.read rules data = .ok d) (hmodule : modelModule? d = some (notices, module))
    (he : .enumeration e ∈ module) : PrintsNumbers rules data e := by
  obtain ⟨schemas, hschemas, hall⟩ := Option.map_eq_some_iff.1 hmodule
  have hmem : Statement.enumeration e ∈ (declareAll schemas.entries).2 := by rwa [hall]
  obtain ⟨⟨key, s⟩, hs, hdeclare⟩ := exists_of_mem_declareAll hmem
  have hnamed : (key, s) ∈ d.namedSchemas := by
    rw [Document.namedSchemas, hschemas]
    exact hs
  obtain ⟨vs, hvs, hname, hmembers⟩ := enumValues_of_declare hdeclare
  obtain ⟨items, hlists, hvalues⟩ := Document.lists_of_named hread hnamed hvs
  have hitems := hlists.all hfits
  refine ⟨key, items, hlists, hname, ?_⟩
  rw [hmembers]
  exact forall₂_enumMembersFrom
    (Node.forall₂_of_mem_left hvalues fun n hn v hv => printsNumber hv (hitems n hn)) 0

/-- Where no number is written as a word, all numbers are printed as numerals. -/
theorem PrintsNumbers.isNumeral {rules : Rules} {data : Node} {e : Enumeration}
    (h : PrintsNumbers rules data e) (hdata : data.All JsonReader.IsLeaf) :
    ∀ m ∈ e.members, m.value.isNumber = true → IsNumeral m.value.text := by
  obtain ⟨key, items, hlists, -, hmembers⟩ := h
  intro m hm hnumber
  obtain ⟨n, hn, hprints⟩ := Node.exists_of_mem_right hmembers hm
  rw [hprints.isNumber] at hnumber
  refine (hprints.numeral hnumber).2 ?_
  cases hlists.all hdata n hn with
  | leaf hl =>
    obtain ⟨s, hs, hkind⟩ := (Option.any_eq_true _ _).1 hnumber
    exact hl.not_isSpecial hs hkind
  | list | record | tagged => rfl

open Request in
/-- **Numeric members of enums are printed as numerals**, whatever named schemas a document has: in
JSON text all of them, and in YAML text all but those that are written as infinities or as no
number. -/
theorem numeric_members_printed (text : String) {d : Document} {notices : List Notice}
    {module : Module} {e : Enumeration} (hmodule : modelModule? d = some (notices, module))
    (he : .enumeration e ∈ module) :
    (Document.ofJsonText text = .ok d → ∃ data, Node.ofJsonText? text = some data ∧
      PrintsNumbers .jsonText data e ∧
        ∀ m ∈ e.members, m.value.isNumber = true → IsNumeral m.value.text) ∧
    (Document.ofYamlText text = .ok d → ∃ data, Node.ofYamlText? text = some data ∧
      PrintsNumbers .yaml data e) := by
  constructor
  · intro hd
    unfold Document.ofJsonText at hd
    split at hd
    · cases hd
    · rename_i data hdata
      have hleaves := (JsonReader.legible hdata).leaves
      have hprints := printsNumbers_of_read (hleaves.mono fun _ hl => hl.numbersFit)
        (mapError_eq_ok.1 hd) hmodule he
      exact ⟨data, hdata, hprints, hprints.isNumeral hleaves⟩
  · intro hd
    unfold Document.ofYamlText at hd
    split at hd
    · cases hd
    · rename_i data hdata
      have hfits := (Node.made_ofYamlText? hdata).mono fun _ hl => hl.numbersFit
      exact ⟨data, hdata, printsNumbers_of_read hfits (mapError_eq_ok.1 hd) hmodule he⟩

open Request in
/-- The model module of the document has an enum with the property. -/
def Document.declaresEnum (p : Enumeration → Bool) (d : Document) : Bool :=
  (modelModule? d).any fun m => m.2.any fun
    | .enumeration e => p e
    | _ => false

open Request in
theorem Document.exists_of_declaresEnum {ε : Type} {r : Except ε Document}
    {p : Enumeration → Bool} (h : r.toOption.any (declaresEnum p) = true) :
    ∃ d notices module e, r = .ok d ∧ modelModule? d = some (notices, module) ∧
      .enumeration e ∈ module ∧ p e = true := by
  obtain ⟨d, hd, h⟩ := (Option.any_eq_true _ _).1 h
  obtain ⟨⟨notices, module⟩, hmodule, h⟩ := (Option.any_eq_true _ _).1 h
  obtain ⟨st, hst, hp⟩ := List.any_eq_true.1 h
  cases st with
  | enumeration e => exact ⟨d, notices, module, e, eq_ok_of_toOption hd, hmodule, hst, hp⟩
  | _ => cases hp

/-- Sizes in JSON text; the last one does not fit in 64 bits with a sign. -/
def sizesJson : String :=
  "\x7b\"components\": \x7b\"schemas\": \x7b\"Size\": \x7b\"enum\": "
    ++ "[7, -0.5, 1e3, 18446744073709551615]\x7d\x7d\x7d\x7d"

/-- Sizes in YAML text; the last one is infinite. -/
def sizesYaml : String :=
  "components:\n  schemas:\n    Size:\n      enum: [7, -0.5, 0x10, .inf]\n"

open Request in
theorem numeric_members_sizes :
    (∃ d notices module e, Document.ofJsonText sizesJson = .ok d ∧
      modelModule? d = some (notices, module) ∧ .enumeration e ∈ module ∧
      e.members.map (fun m => m.value.text) = ["7", "-0.5", "1000", "18446744073709552000"] ∧
      ∀ m ∈ e.members, m.value.isNumber = true → IsNumeral m.value.text) ∧
    ∃ d notices module e, Document.ofYamlText sizesYaml = .ok d ∧
      modelModule? d = some (notices, module) ∧ .enumeration e ∈ module ∧
      e.members.map (fun m => m.value.text) = ["7", "-0.5", "16", "inf"] ∧
      ∃ data, Node.ofYamlText? sizesYaml = some data ∧ PrintsNumbers .yaml data e := by
  constructor
  · have hcheck : (Document.ofJsonText sizesJson).toOption.any (Document.declaresEnum fun e =>
        e.members.map (fun m => m.value.text) == ["7", "-0.5", "1000", "18446744073709552000"]) =
          true := by
      decide +kernel
    obtain ⟨d, notices, module, e, hd, hmodule, he, htexts⟩ :=
      Document.exists_of_declaresEnum hcheck
    obtain ⟨data, -, -, hnumerals⟩ := (numeric_members_printed sizesJson hmodule he).1 hd
    exact ⟨d, notices, module, e, hd, hmodule, he, beq_iff_eq.1 htexts, hnumerals⟩
  · have hcheck : (Document.ofYamlText sizesYaml).toOption.any (Document.declaresEnum fun e =>
        e.members.map (fun m => m.value.text) == ["7", "-0.5", "16", "inf"]) = true := by
      decide +kernel
    obtain ⟨d, notices, module, e, hd, hmodule, he, htexts⟩ :=
      Document.exists_of_declaresEnum hcheck
    have hdata := (numeric_members_printed sizesYaml hmodule he).2 hd
    exact ⟨d, notices, module, e, hd, hmodule, he, beq_iff_eq.1 htexts, hdata⟩

/-- A schema in YAML text that lists an infinity. -/
def infinityYaml : String :=
  "components:\n  schemas:\n    A:\n      enum: [.inf]\n"

open Request in
/-- **An infinity is printed as a word**, which is no numeral. -/
theorem infinity_printed : ∃ d notices module e m, Document.ofYamlText infinityYaml = .ok d ∧
    modelModule? d = some (notices, module) ∧ .enumeration e ∈ module ∧ m ∈ e.members ∧
      m.value.isNumber = true ∧ m.text = "  Enum_0 = inf,\n" ∧ ¬ IsNumeral m.value.text := by
  have hcheck : (Document.ofYamlText infinityYaml).toOption.any (Document.declaresEnum fun e =>
      e.members == [⟨"Enum_0", .real (.infinite false)⟩]) = true := by
    decide +kernel
  obtain ⟨d, notices, module, e, hd, hmodule, he, hmembers⟩ :=
    Document.exists_of_declaresEnum hcheck
  have hm : ⟨"Enum_0", .real (.infinite false)⟩ ∈ e.members := by
    rw [beq_iff_eq.1 hmembers]
    exact List.mem_singleton_self _
  exact ⟨d, notices, module, e, _, hd, hmodule, he, hm, rfl, by decide +kernel,
    not_isNumeral_write rfl⟩

end OpenApi

end TypedRequests
