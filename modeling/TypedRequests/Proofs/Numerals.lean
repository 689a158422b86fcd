import TypedRequests.Proofs.PrintedScalars
import TypedRequests.Proofs.ShortestDecimals
import TypedRequests.TypeScript.Statement

/-!
# Numerals

How numbers stand in generated code. Integers and finite numbers are numerals there; what is not
finite is printed as a word, and no word is a numeral.

* `Numeral` : the text of a number, with its sign, its digits and its fraction.
* `IsNumeral`, `IsNumeralOf`, `IsNumeralNearest` : the text is a numeral, of an integer or with a
  floating-point number as the nearest one.
* `isDecimal_positionalText` : digits with a point are a numeral.
* `isNumeralOf_integerText`, `isNumeralNearest_write`, `not_isNumeral_write` : which numbers are
  printed as numerals.
-/

set_option autoImplicit false

namespace TypedRequests

open NumberLayout

/-- The text is a number in decimal notation: a minus sign if it is negative, digits, and a point
with further digits if there is a fraction. No digits but a single zero begin with zero. -/
structure Numeral (negative : Bool) (whole fraction text : List Char) : Prop where
  printed : text = signText negative ++ (whole ++ if fraction = [] then [] else '.' :: fraction)
  wholeDigits : ∀ c ∈ whole, c.isDigit = true
  fractionDigits : ∀ c ∈ fraction, c.isDigit = true
  nonempty : whole ≠ []
  leading : whole.head? = some '0' → whole = ['0']

/-- The text is a number in decimal notation. -/
def IsNumeral (text : String) : Prop :=
  ∃ negative whole fraction, Numeral negative whole fraction text.toList

/-- The text is an integer in decimal notation, and it is the given one. -/
def IsNumeralOf (n : Int) (text : String) : Prop :=
  ∃ negative whole, Numeral negative whole [] text.toList ∧
    Binary64.signed negative (valueOfDigits 10 (whole.map digitValue)) = n

/-- The number in decimal notation as it is read. -/
def writtenNumber (negative : Bool) (whole fraction : List Char) : DecimalLiteral :=
  ⟨negative, whole.map digitValue, fraction.map digitValue, 0⟩

/-- The text is a number in decimal notation, and the given one is the nearest to it. -/
def IsNumeralNearest (x : Binary64) (text : String) : Prop :=
  ∃ negative whole fraction, Numeral negative whole fraction text.toList ∧
    (writtenNumber negative whole fraction).nearest = x

theorem IsNumeralOf.isNumeral {n : Int} {text : String} (h : IsNumeralOf n text) :
    IsNumeral text := by
  obtain ⟨negative, whole, hnumeral, -⟩ := h
  exact ⟨negative, whole, [], hnumeral⟩

theorem IsNumeralNearest.isNumeral {x : Binary64} {text : String}
    (h : IsNumeralNearest x text) : IsNumeral text := by
  obtain ⟨negative, whole, fraction, hnumeral, -⟩ := h
  exact ⟨negative, whole, fraction, hnumeral⟩

namespace Numeral

variable {negative : Bool} {whole fraction text : List Char}

/-- A numeral with a sign before it. -/
theorem signed (h : Numeral false whole fraction text) (negative : Bool) :
    Numeral negative whole fraction (signText negative ++ text) where
  printed := congrArg _ h.printed
  wholeDigits := h.wholeDigits
  fractionDigits := h.fractionDigits
  nonempty := h.nonempty
  leading := h.leading

/-- Behind its sign, a numeral begins with a digit. -/
theorem digit_first (h : Numeral negative whole fraction text) :
    ∃ c cs, text = signText negative ++ c :: cs ∧ c.isDigit = true := by
  obtain ⟨c, cs, hwhole⟩ := List.exists_cons_of_ne_nil h.nonempty
  refine ⟨c, _, h.printed.trans (by rw [hwhole]; rfl), h.wholeDigits c ?_⟩
  rw [hwhole]
  exact List.mem_cons_self ..

end Numeral

/-- A word is no numeral, nor is one with a minus sign before it. -/
theorem not_isNumeral_of_letter {c : Char} {cs : List Char} {text : String} (negative : Bool)
    (htext : text.toList = signText negative ++ c :: cs) (hc : c.isDigit = false)
    (hsign : c ≠ '-') : ¬ IsNumeral text := by
  rintro ⟨negative', whole, fraction, hnumeral⟩
  obtain ⟨d, ds, hfirst, hd⟩ := hnumeral.digit_first
  rw [htext] at hfirst
  have hdigit : ∀ {e : Char}, e.isDigit = true → e ≠ c ∧ e ≠ '-' := by
    rintro e he
    refine ⟨?_, ?_⟩
    · rintro rfl
      exact absurd he (by rw [hc]; decide)
    · rintro rfl
      exact absurd he (by decide)
  cases negative <;> cases negative' <;> simp only [signText, List.nil_append, if_true,
    List.cons_append, if_false, List.cons.injEq, Bool.false_eq_true] at hfirst
  · exact (hdigit hd).1 hfirst.1.symm
  · exact hsign hfirst.1
  · exact (hdigit hd).2 hfirst.1.symm
  · exact (hdigit hd).1 hfirst.2.1.symm

/-! ## Digits -/

theorem isDigit_digitsOf (n : Nat) : ∀ c ∈ digitsOf n, c.isDigit = true :=
  fun _ hc => Nat.isDigit_of_mem_toDigits (by decide) (by decide) hc

/-- Only the digits of zero begin with zero. -/
theorem eq_zero_of_leading {n : Nat} (h : (digitsOf n).head? = some '0') : n = 0 := by
  by_contra hn
  refine Scalar.head?_toDigits hn ?_
  rw [List.head?_map, show Nat.toDigits 10 n = digitsOf n from rfl, h]
  rfl

theorem leading_digitsOf {n : Nat} (h : (digitsOf n).head? = some '0') : digitsOf n = ['0'] := by
  rw [eq_zero_of_leading h]
  rfl

/-- The digits of a natural number are a numeral. -/
theorem numeral_digitsOf (n : Nat) : Numeral false (digitsOf n) [] (digitsOf n) where
  printed := (List.append_nil _).symm
  wholeDigits := isDigit_digitsOf n
  fractionDigits := nofun
  nonempty := Nat.toDigits_ne_nil
  leading := leading_digitsOf

/-- **An integer is printed as its numeral.** -/
theorem isNumeralOf_integerText (n : Int) :
    IsNumeralOf n (String.ofList (Scalar.integerText n)) := by
  have htext : Scalar.integerText n = signText (decide (n < 0)) ++ digitsOf n.natAbs := by
    by_cases hn : n < 0 <;> simp [Scalar.integerText, signText, hn]
  refine ⟨decide (n < 0), digitsOf n.natAbs, ?_, ?_⟩
  · rw [String.toList_ofList, htext]
    exact (numeral_digitsOf n.natAbs).signed _
  · rw [digitsOf, Scalar.valueOfDigits_toDigits, Binary64.signed]
    by_cases hn : n < 0
    · rw [decide_eq_true hn, if_pos rfl]
      omega
    · rw [decide_eq_false hn, if_neg Bool.false_ne_true]
      omega

/-! ## Numbers with a point -/

theorem isDigit_zeros (n : Nat) : ∀ c ∈ List.replicate n '0', c.isDigit = true := by
  intro c hc
  rw [List.eq_of_mem_replicate hc]
  decide

/-- Each zero behind the digits multiplies their value by ten. -/
theorem foldl_zeros (n value : Nat) :
    (List.replicate n 0).foldl (fun v d => v * 10 + d) value = value * 10 ^ n := by
  induction n generalizing value with
  | zero => exact (Nat.mul_one value).symm
  | succ n ih =>
    rw [List.replicate_succ, List.foldl_cons, ih, Nat.add_zero, Nat.pow_succ', Nat.mul_assoc]

theorem valueOfDigits_append_zeros (k n : Nat) :
    valueOfDigits 10 ((digitsOf k ++ List.replicate n '0').map digitValue) = k * 10 ^ n := by
  rw [List.map_append, List.map_replicate, valueOfDigits, List.foldl_append]
  change (List.replicate n 0).foldl _ (valueOfDigits 10 ((Nat.toDigits 10 k).map digitValue)) = _
  rw [foldl_zeros, Scalar.valueOfDigits_toDigits]

theorem valueOfDigits_zeros_append (n k : Nat) :
    valueOfDigits 10 ((List.replicate n '0' ++ digitsOf k).map digitValue) = k := by
  rw [List.map_append, List.map_replicate, valueOfDigits, List.foldl_append]
  change ((Nat.toDigits 10 k).map digitValue).foldl _ ((List.replicate n 0).foldl _ 0) = _
  rw [foldl_zeros, Nat.zero_mul]
  exact Scalar.valueOfDigits_toDigits k

/-- The text is a numeral for `k · 10 ^ t`, with the digits of `k` and as many digits behind the
point as `t` is below zero. -/
def IsDecimal (k : Nat) (t : Int) (text : List Char) : Prop :=
  ∃ whole fraction, Numeral false whole fraction text ∧
    valueOfDigits 10 ((whole ++ fraction).map digitValue) = k * 10 ^ t.toNat ∧
      fraction.length = (-t).toNat

variable {k : Nat} {t : Int}

theorem digitsOf_ne_nil : digitsOf k ≠ [] :=
  Nat.toDigits_ne_nil

/-- Zeros may follow the digits, unless the only digit is a zero. -/
theorem isDecimal_zeros (h : k = 0 → t ≤ 0) (ht : 0 ≤ t) :
    IsDecimal k t (digitsOf k ++ List.replicate t.toNat '0') := by
  refine ⟨digitsOf k ++ List.replicate t.toNat '0', [], ⟨(List.append_nil _).symm, ?_, nofun,
    List.append_ne_nil_of_left_ne_nil digitsOf_ne_nil _, ?_⟩, ?_, ?_⟩
  · exact List.forall_mem_append.2 ⟨isDigit_digitsOf k, isDigit_zeros _⟩
  · intro hleading
    rw [List.head?_append, List.head?_eq_some_head digitsOf_ne_nil, Option.some_or,
      ← List.head?_eq_some_head digitsOf_ne_nil] at hleading
    have hnone : t.toNat = 0 := by
      have := h (eq_zero_of_leading hleading)
      omega
    rw [hnone, leading_digitsOf hleading]
    rfl
  · rw [List.append_nil]
    exact valueOfDigits_append_zeros k _
  · rw [List.length_nil]
    omega

/-- The point may stand among the digits, of which there are at least two. -/
theorem isDecimal_point {places : Nat} (ht : (-t).toNat = places) (hneg : t < 0)
    (hplaces : places < (digitsOf k).length) :
    IsDecimal k t ((digitsOf k).take ((digitsOf k).length - places) ++
      '.' :: (digitsOf k).drop ((digitsOf k).length - places)) := by
  generalize hwhole : (digitsOf k).length - places = n
  have hdigits := isDigit_digitsOf k
  have hbehind : (digitsOf k).drop n ≠ [] := by
    rw [ne_eq, List.drop_eq_nil_iff]
    omega
  rw [← List.take_append_drop n (digitsOf k)] at hdigits
  obtain ⟨hbefore, hafter⟩ := List.forall_mem_append.1 hdigits
  refine ⟨(digitsOf k).take n, (digitsOf k).drop n, ⟨?_, hbefore, hafter, ?_, ?_⟩, ?_, ?_⟩
  · rw [if_neg hbehind]
    rfl
  · rw [ne_eq, List.take_eq_nil_iff]
    exact not_or.2 ⟨by omega, digitsOf_ne_nil⟩
  · intro hleading
    rw [List.head?_take, if_neg (by omega)] at hleading
    have hone : (digitsOf k).length = 1 := congrArg List.length (leading_digitsOf hleading)
    omega
  · rw [List.take_append_drop, show t.toNat = 0 by omega, Nat.pow_zero, Nat.mul_one]
    exact Scalar.valueOfDigits_toDigits k
  · rw [List.length_drop]
    omega

/-- All digits may stand behind the point. -/
theorem isDecimal_behind {places : Nat} (ht : (-t).toNat = places) (hneg : t < 0)
    (hplaces : (digitsOf k).length ≤ places) :
    IsDecimal k t ('0' :: '.' :: List.replicate (places - (digitsOf k).length) '0' ++
      digitsOf k) := by
  refine ⟨['0'], List.replicate (places - (digitsOf k).length) '0' ++ digitsOf k,
    ⟨?_, List.forall_mem_singleton.2 rfl, ?_, List.cons_ne_nil _ _, fun _ => rfl⟩, ?_, ?_⟩
  · rw [if_neg (List.append_ne_nil_of_right_ne_nil _ digitsOf_ne_nil)]
    rfl
  · exact List.forall_mem_append.2 ⟨isDigit_zeros _, isDigit_digitsOf k⟩
  · rw [show t.toNat = 0 by omega, Nat.pow_zero, Nat.mul_one, ← List.append_assoc]
    exact valueOfDigits_zeros_append (places - (digitsOf k).length + 1) k
  · rw [List.length_append, List.length_replicate]
    omega

/-- **Digits with a point, or with zeros behind them, are a numeral**, unless zeros follow a
zero. -/
theorem isDecimal_positionalText (h : k = 0 → t ≤ 0) :
    IsDecimal k t (positionalText false (digitsOf k) t) := by
  unfold positionalText
  split
  · rw [if_neg Bool.false_ne_true, List.append_nil]
    exact isDecimal_zeros h ‹_›
  · dsimp only
    generalize hplaces : (-t).toNat = places
    split
    · exact isDecimal_point hplaces (by omega) ‹_›
    · exact isDecimal_behind hplaces (by omega) (by omega)

/-! ## Printed numbers -/

/-- A numeral for a decimal that is rounded to a number is read as this number. -/
theorem IsDecimal.isNumeralNearest {negative : Bool} {m : Nat} {e : Int} {text : List Char}
    (h : IsDecimal k t text) (hranged : (Binary64.finite negative m e).Ranged) (hm : m ≠ 0)
    (hleast : -400 ≤ t) (hreads : Binary64.ReadsBack m e (k * 10 ^ t)) :
    IsNumeralNearest (.finite negative m e) (String.ofList (signText negative ++ text)) := by
  obtain ⟨whole, fraction, hnumeral, hvalue, hlength⟩ := h
  refine ⟨negative, whole, fraction, ?_, ?_⟩
  · rw [String.toList_ofList]
    exact hnumeral.signed negative
  · have hdigits : (writtenNumber negative whole fraction).digits = k * 10 ^ t.toNat := by
      rw [← hvalue, List.map_append]
      rfl
    have hlast : (writtenNumber negative whole fraction).lastExponent = -(-t).toNat := by
      rw [← hlength, DecimalLiteral.lastExponent]
      change (0 : Int) - (fraction.map digitValue).length = _
      rw [List.length_map, zero_sub]
    refine DecimalLiteral.nearest_of_readsBack hranged hm (by omega) ?_
    rw [hdigits, hlast]
    have hshift : ((k * 10 ^ t.toNat : Nat) : ℚ) * 10 ^ (-(-t).toNat : Int) = k * 10 ^ t := by
      rw [Nat.cast_mul, Nat.cast_pow, Nat.cast_ofNat, mul_assoc, ← zpow_natCast,
        ← zpow_add₀ (by norm_num)]
      congr 2
      omega
    rwa [hshift]

/-- **A number in range is printed as a numeral to which it is the nearest number.** -/
theorem isNumeralNearest_write {x : Binary64} (h : x.Ranged) :
    IsNumeralNearest x (code.write x) := by
  cases h with
  | @finite negative m e hm hleast hgreatest hnormal =>
    by_cases hzero : m = 0
    · obtain rfl : e = Binary64.leastExponent := hnormal.resolve_right (by omega)
      subst hzero
      refine ⟨negative, ['0'], [], ?_, rfl⟩
      rw [write, String.toList_ofList]
      exact (numeral_digitsOf 0).signed negative
    · have hreads := Shortest.readsBack_decimal .up hzero hm hleast hgreatest
      have hdigits : (Shortest.decimal .up m e).1 ≠ 0 := by
        intro hnone
        have := hreads.pos hzero
        rw [hnone, Nat.cast_zero, zero_mul] at this
        exact lt_irrefl _ this
      have htext : IsDecimal (Shortest.decimal .up m e).1 (Shortest.decimal .up m e).2
          (code.magnitudeText m e) := by
        rw [magnitudeText, if_neg hzero]
        exact isDecimal_positionalText fun hnone => absurd hnone hdigits
      exact htext.isNumeralNearest (.finite negative hm hleast hgreatest hnormal) hzero
        (Shortest.le_decimal .up m hleast) hreads

/-- **What is not finite is not printed as a numeral.** -/
theorem not_isNumeral_write {x : Binary64} (h : x.isFinite = false) :
    ¬ IsNumeral (code.write x) := by
  cases x with
  | finite negative m e => cases h
  | infinite negative =>
    have htext : (code.write (.infinite negative)).toList =
        signText negative ++ 'i' :: ['n', 'f'] := by
      cases negative <;> rfl
    exact not_isNumeral_of_letter negative htext (by decide) (by decide)
  | nan => exact not_isNumeral_of_letter false rfl (by decide) (by decide)

end TypedRequests
