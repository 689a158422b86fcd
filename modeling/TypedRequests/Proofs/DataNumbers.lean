import TypedRequests.Proofs.RangedNumbers
import TypedRequests.Proofs.YamlData

/-!
# Numbers in data

Which numbers the data of a text can hold. Integers are words of 64 bits. Floating-point numbers are
in range; only YAML text has words for what is not finite.

* `IsWord` : integers of 64 bits.
* `YamlReader.specialTexts`, `Leaf.isSpecial` : the words for what is not finite.
* `Leaf.NumbersFit` : the number of a scalar is in range unless the text is such a word.
* `JsonReader.IsLeaf.numbersFit`, `YamlReader.IsLeaf.numbersFit` : both notations keep to it.
* `JsonReader.IsLeaf.not_isSpecial` : numbers of JSON text are not written as words.
-/

set_option autoImplicit false

namespace TypedRequests

/-- The texts that mean an infinity, or what is no number. -/
def YamlReader.specialTexts : List String :=
  infinities ++ infinities.map ("+" ++ ·) ++ infinities.map ("-" ++ ·) ++ nans

/-- The scalar is written as something that is not finite. -/
def Leaf.isSpecial (l : Leaf) : Bool :=
  l.text.any YamlReader.specialTexts.contains

/-- The scalar is an integer or a floating-point number. -/
def Scalar.isNumber : Scalar → Bool
  | integer _ | real _ => true
  | _ => false

/-- The integer has 64 bits, with or without a sign. -/
def IsWord (n : Int) : Prop :=
  fitsSigned 64 n = true ∨ fitsUnsigned 64 n = true

/-- If the scalar is a number, it is a word of 64 bits or a floating-point number; this is finite,
and in range, unless it is written as something else. -/
structure Leaf.NumbersFit (l : Leaf) : Prop where
  integer : ∀ n, l.value = some (.integer n) → IsWord n ∧ l.isSpecial = false
  finite : ∀ x, l.value = some (.real x) → l.isSpecial = false → x.Ranged
  special : ∀ x, l.value = some (.real x) → l.isSpecial = true → x.isFinite = false

/-- Scalars other than numbers have nothing to fit. -/
theorem Leaf.numbersFit_of_not_number {l : Leaf} (hinteger : ∀ n, l.value ≠ some (.integer n))
    (hreal : ∀ x, l.value ≠ some (.real x)) : l.NumbersFit where
  integer n hn := absurd hn (hinteger n)
  finite x hx := absurd hx (hreal x)
  special x hx := absurd hx (hreal x)

theorem IsWord.natAbs_le {n : Int} (h : IsWord n) : n.natAbs ≤ DecimalLiteral.wordBound := by
  have hword : DecimalLiteral.wordBound = 2 ^ 64 := rfl
  rw [IsWord, Scalar.fitsSigned_iff, Scalar.fitsUnsigned_iff] at h
  omega

/-- A natural number below the bound has 64 bits. -/
theorem isWord_of_lt {n : Nat} (h : n < DecimalLiteral.wordBound) : IsWord n := by
  have hword : DecimalLiteral.wordBound = 2 ^ 64 := rfl
  exact .inr (Scalar.fitsUnsigned_iff.2 (by omega))

/-! ## JSON text -/

namespace JsonReader

/-- The numbers of integer tokens. -/
theorem integerScalar_eq_some {d : DecimalLiteral} {s : Scalar} (h : integerScalar d = some s) :
    (∃ n, s = .integer n ∧ IsWord n) ∨ ∃ x, s = .real x ∧ x.Ranged := by
  unfold integerScalar at h
  dsimp only at h
  generalize valueOfDigits 10 d.whole = n at h
  have hscaled (h : d.scaled?.map Scalar.real = some s) : ∃ x, s = .real x ∧ x.Ranged := by
    obtain ⟨x, hx, rfl⟩ := Option.map_eq_some_iff.1 h
    exact ⟨x, rfl, DecimalLiteral.ranged_of_scaled? hx⟩
  split at h
  · split at h
    · cases h
      exact .inr ⟨_, rfl, Binary64.ranged_zero true⟩
    · split at h
      · rename_i hfits
        cases h
        exact .inl ⟨_, rfl, .inl hfits⟩
      · split at h
        · rename_i hword
          cases h
          exact .inr ⟨_, rfl, (DecimalLiteral.ranged_word false hword.le).neg⟩
        · exact .inr (hscaled h)
  · split at h
    · rename_i hword
      cases h
      exact .inl ⟨_, rfl, isWord_of_lt hword⟩
    · exact .inr (hscaled h)

/-- A number of JSON text has no text. -/
theorem IsLeaf.text_eq_none {l : Leaf} (h : IsLeaf l) {s : Scalar} (hvalue : l.value = some s)
    (hstring : ∀ t, s ≠ .string t) : l.text = none := by
  obtain ⟨t, ht⟩ := h
  cases t with
  | null | bool | integer | decimal =>
    cases ht
    rfl
  | string name =>
    cases name with
    | none =>
      cases ht
      cases hvalue
    | some name =>
      cases ht
      exact absurd (Option.some.inj hvalue).symm (hstring name)
  | openList | closeList | openRecord | closeRecord | colon | comma => cases ht

/-- **Numbers of JSON text are not written as words.** -/
theorem IsLeaf.not_isSpecial {l : Leaf} (h : IsLeaf l) {s : Scalar} (hvalue : l.value = some s)
    (hnumber : s.isNumber = true) : l.isSpecial = false := by
  have hstring : ∀ t, s ≠ .string t := by
    rintro t rfl
    cases hnumber
  rw [Leaf.isSpecial, h.text_eq_none hvalue hstring]
  rfl

/-- The number of a token fits. -/
theorem IsLeaf.value_fits {l : Leaf} (h : IsLeaf l) :
    (∀ n, l.value = some (.integer n) → IsWord n) ∧
      ∀ x, l.value = some (.real x) → x.Ranged := by
  obtain ⟨t, ht⟩ := h
  cases t with
  | null | bool =>
    cases ht
    exact ⟨nofun, nofun⟩
  | string name =>
    cases name <;> cases ht <;> exact ⟨nofun, nofun⟩
  | integer d =>
    cases ht
    refine ⟨fun n hn => ?_, fun x hx => ?_⟩
    · obtain ⟨_, hs, hn⟩ | ⟨_, hs, -⟩ := integerScalar_eq_some hn
      · cases hs
        exact hn
      · cases hs
    · obtain ⟨_, hs, -⟩ | ⟨_, hs, hx⟩ := integerScalar_eq_some hx
      · cases hs
      · cases hs
        exact hx
  | decimal d =>
    cases ht
    refine ⟨fun n hn => ?_, fun x hx => ?_⟩
    · obtain ⟨_, -, hs⟩ := Option.map_eq_some_iff.1 hn
      cases hs
    · obtain ⟨_, hscaled, hs⟩ := Option.map_eq_some_iff.1 hx
      cases hs
      exact DecimalLiteral.ranged_of_scaled? hscaled
  | openList | closeList | openRecord | closeRecord | colon | comma => cases ht

theorem IsLeaf.numbersFit {l : Leaf} (h : IsLeaf l) : l.NumbersFit where
  integer n hn := ⟨h.value_fits.1 n hn, h.not_isSpecial hn rfl⟩
  finite x hx _ := h.value_fits.2 x hx
  special x hx hspecial := by
    rw [h.not_isSpecial hx rfl] at hspecial
    cases hspecial

end JsonReader

/-! ## YAML text -/

namespace YamlReader

theorem integerValue_eq_some {n : Int} {s : Scalar} (h : integerValue n = some s) :
    s = .integer n ∧ IsWord n := by
  unfold integerValue at h
  split at h
  · rename_i hfits
    cases h
    exact ⟨rfl, Bool.or_eq_true_iff.1 hfits⟩
  · cases h

/-- No word for something that is not finite is an integer. -/
theorem not_special_of_integer? {text : String} {n : Int} (h : integer? text.toList = some n) :
    text ∉ specialTexts := by
  have hwords : ∀ word ∈ specialTexts, integer? word.toList = none := by decide
  intro hspecial
  rw [hwords text hspecial] at h
  cases h

theorem mem_specialTexts {text : String} : text ∈ specialTexts ↔
    text ∈ infinities ∨ (∃ name ∈ infinities, "+" ++ name = text) ∨
      (∃ name ∈ infinities, "-" ++ name = text) ∨ text ∈ nans := by
  simp only [specialTexts, List.mem_append, List.mem_map, or_assoc]

theorem dot_first : ∀ name ∈ infinities, name.toList.head? = some '.' := by
  decide

/-- What is left without a plus sign is the name of an infinity exactly if the text is such a name,
or has a plus sign before it. -/
theorem positive_mem_iff {cs : List Char} :
    infinities.contains (String.ofList (match cs with
      | '+' :: ds => ds
      | ds => ds)) = true ↔
      String.ofList cs ∈ infinities ∨ ∃ name ∈ infinities, "+" ++ name = String.ofList cs := by
  have hsigned : ∀ name : String, "+" ++ name = String.ofList cs → cs = '+' :: name.toList := by
    intro name hname
    rw [← String.toList_ofList (l := cs), ← hname, String.toList_append]
    rfl
  rw [List.contains_iff_mem]
  split
  · rename_i ds
    constructor
    · intro hmem
      exact .inr ⟨_, hmem, String.toList_inj.1 (by simp)⟩
    · rintro (hmem | ⟨name, hname, heq⟩)
      · have hdot := dot_first _ hmem
        rw [String.toList_ofList] at hdot
        cases hdot
      · rw [(List.cons.inj (hsigned name heq)).2, String.ofList_toList]
        exact hname
  · rename_i hplain
    refine ⟨.inl, ?_⟩
    rintro (hmem | ⟨name, -, heq⟩)
    · exact hmem
    · exact absurd (hsigned name heq) (hplain _)

/-- **A text that means a floating-point number is a word for something that is not finite, or it
means a number in range.** -/
theorem real?_spec {cs : List Char} {x : Binary64} (h : real? cs = some x) :
    (String.ofList cs ∈ specialTexts ∧ x.isFinite = false) ∨
      (String.ofList cs ∉ specialTexts ∧ x.Ranged) := by
  unfold real? at h
  dsimp only at h
  split_ifs at h with hpositive hnegative hnan
  · cases h
    exact .inl ⟨mem_specialTexts.2 ((positive_mem_iff.1 hpositive).imp_right .inl), rfl⟩
  · cases h
    obtain ⟨name, hname, heq⟩ := List.any_eq_true.1 hnegative
    have hmem : ∃ name ∈ infinities, "-" ++ name = String.ofList cs :=
      ⟨name, hname, (beq_iff_eq.1 heq).symm⟩
    exact .inl ⟨mem_specialTexts.2 (.inr (.inr (.inl hmem))), rfl⟩
  · cases h
    exact .inl ⟨mem_specialTexts.2 (.inr (.inr (.inr (List.contains_iff_mem.1 hnan)))), rfl⟩
  · have hplain : String.ofList cs ∉ specialTexts := by
      intro hspecial
      obtain hname | hplus | ⟨name, hname, heq⟩ | hword := mem_specialTexts.1 hspecial
      · exact hpositive (positive_mem_iff.2 (.inl hname))
      · exact hpositive (positive_mem_iff.2 (.inr hplus))
      · exact hnegative (List.any_eq_true.2 ⟨name, hname, beq_iff_eq.2 heq.symm⟩)
      · exact hnan (List.contains_iff_mem.2 hword)
    refine .inr ⟨hplain, ?_⟩
    split at h
    · split at h
      · rename_i hfinite
        cases h
        exact DecimalLiteral.ranged_nearest hfinite
      · cases h
    · cases h

/-- A scalar fits whose number is the one that its text means. -/
theorem numbersFit_of_text {text : String} {value : Option Scalar}
    (hinteger : ∀ n, value = some (.integer n) →
      ∃ k, integer? text.toList = some k ∧ integerValue k = some (.integer n))
    (hreal : ∀ x, value = some (.real x) → real? text.toList = some x) :
    (Leaf.mk (some text) value).NumbersFit := by
  have hspecial : (Leaf.mk (some text) value).isSpecial = true ↔ text ∈ specialTexts :=
    List.contains_iff_mem
  refine ⟨fun n hn => ?_, fun x hx hplain => ?_, fun x hx hword => ?_⟩
  · obtain ⟨k, hk, hvalue⟩ := hinteger n hn
    obtain ⟨hs, hfits⟩ := integerValue_eq_some hvalue
    cases hs
    refine ⟨hfits, Bool.eq_false_iff.2 fun hword => ?_⟩
    exact not_special_of_integer? hk (hspecial.1 hword)
  · obtain ⟨hword, -⟩ | ⟨-, hranged⟩ := real?_spec (hreal x hx)
    · rw [String.ofList_toList, ← hspecial, hplain] at hword
      cases hword
    · exact hranged
  · obtain ⟨-, hfinite⟩ | ⟨hplain, -⟩ := real?_spec (hreal x hx)
    · exact hfinite
    · rw [String.ofList_toList, ← hspecial] at hplain
      exact absurd hword hplain

/-- A plain scalar that is a number is an integer before it is anything else. -/
theorem plainValue_eq_number {text : String} {s : Scalar} (h : plainValue text = some s)
    (hnumber : s.isNumber = true) :
    (∃ n, integer? text.toList = some n ∧ integerValue n = some s) ∨
      ∃ x, s = .real x ∧ real? text.toList = some x := by
  unfold plainValue at h
  split at h
  · cases h
    cases hnumber
  · split at h
    · cases h
      cases hnumber
    · split at h
      · exact .inl ⟨_, ‹_›, h⟩
      · split at h
        · rename_i hreal
          cases h
          split at hreal
          · cases hreal
          · exact .inr ⟨_, rfl, hreal⟩
        · cases h
          cases hnumber

theorem numbersFit_plainLeaf (text : String) : (plainLeaf text).NumbersFit := by
  refine numbersFit_of_text (fun n hn => ?_) (fun x hx => ?_)
  · obtain hinteger | ⟨_, hs, -⟩ := plainValue_eq_number hn rfl
    · exact hinteger
    · cases hs
  · obtain ⟨_, -, hs⟩ | ⟨_, hs, hreal⟩ := plainValue_eq_number hx rfl
    · cases (integerValue_eq_some hs).1
    · cases hs
      exact hreal

theorem numbersFit_taggedLeaf (tag text : String) : (taggedLeaf tag text).NumbersFit := by
  refine numbersFit_of_text (fun n hn => ?_) (fun x hx => ?_)
  · split at hn
    · obtain ⟨_, -, hs⟩ := Option.map_eq_some_iff.1 hn
      cases hs
    · exact Option.bind_eq_some_iff.1 hn
    · obtain ⟨_, -, hs⟩ := Option.map_eq_some_iff.1 hn
      cases hs
    · split at hn <;> cases hn
    · cases hn
  · split at hx
    · obtain ⟨_, -, hs⟩ := Option.map_eq_some_iff.1 hx
      cases hs
    · obtain ⟨_, -, hs⟩ := Option.bind_eq_some_iff.1 hx
      cases (integerValue_eq_some hs).1
    · obtain ⟨_, hreal, hs⟩ := Option.map_eq_some_iff.1 hx
      cases hs
      exact hreal
    · split at hx <;> cases hx
    · cases hx

theorem IsLeaf.numbersFit {l : Leaf} (h : IsLeaf l) : l.NumbersFit := by
  cases h with
  | plain text => exact numbersFit_plainLeaf text
  | tagged tag text => exact numbersFit_taggedLeaf tag text
  | quoted text => exact Leaf.numbersFit_of_not_number nofun nofun
  | unreadable => exact Leaf.numbersFit_of_not_number nofun nofun

end YamlReader

end TypedRequests
