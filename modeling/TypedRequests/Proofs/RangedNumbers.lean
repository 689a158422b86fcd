import Mathlib.Algebra.Order.Field.Power
import Mathlib.Algebra.Order.Field.Rat
import Mathlib.Data.Nat.Cast.Order.Field
import Mathlib.Tactic.Linarith
import Mathlib.Tactic.NormNum
import Mathlib.Tactic.Ring
import TypedRequests.Number.Decimal

/-!
# Numbers in range

A finite number is in range when its mantissa and exponent are. All that is made by rounding is in
range or infinite, and what does not exceed the greatest finite number is never rounded to infinity.

* `Binary64.magnitude` : the absolute value of a finite number, as a rational number.
* `Binary64.Ranged` : the finite numbers with a mantissa and an exponent in range.
* `Binary64.ofRatio_spec` : what a quotient is rounded to.
* `Binary64.ranged_ofRatio`, `Binary64.ranged_div` : roundings that stay finite.
* `DecimalLiteral.ranged_of_scaled?`, `DecimalLiteral.ranged_nearest` : the numbers that are read.
-/

set_option autoImplicit false

namespace TypedRequests

namespace Binary64

/-! ## Exact values -/

/-- The absolute value of a finite number. -/
def magnitude : Binary64 → ℚ
  | finite _ m e => m * 2 ^ e
  | infinite _ | nan => 0

/-- The greatest finite number. -/
def greatest : ℚ :=
  (2 ^ 53 - 1) * 2 ^ greatestExponent

theorem two_zpow_pos (e : Int) : (0 : ℚ) < 2 ^ e :=
  zpow_pos two_pos e

theorem cast_two_pow (n : Nat) : ((Nat.pow 2 n : Nat) : ℚ) = 2 ^ (n : Int) := by
  rw [Nat.pow_eq, Nat.cast_pow, Nat.cast_ofNat, zpow_natCast]

theorem two_pow_pos (n : Nat) : 0 < Nat.pow 2 n :=
  Nat.pow_pos (by decide)

/-- A scaled ratio has the scaled value. -/
theorem scaleDown_spec (num : Nat) {den : Nat} (hden : 0 < den) (e : Int) :
    0 < (scaleDown num den e).2 ∧
      ((scaleDown num den e).1 : ℚ) / (scaleDown num den e).2 = num / den / 2 ^ e := by
  unfold scaleDown
  split
  · refine ⟨Nat.mul_pos hden (two_pow_pos _), ?_⟩
    rw [Nat.cast_mul, cast_two_pow, Int.toNat_of_nonneg ‹_›, div_div]
  · refine ⟨hden, ?_⟩
    rw [Nat.cast_mul, cast_two_pow, Int.toNat_of_nonneg (by omega), zpow_neg, ← div_eq_mul_inv,
      div_right_comm]

/-- The ratio of a mantissa at an exponent has its value. -/
theorem ratio_spec (m : Nat) (e : Int) :
    0 < (ratio m e).2 ∧ ((ratio m e).1 : ℚ) / (ratio m e).2 = m * 2 ^ e := by
  unfold ratio
  split
  · refine ⟨one_pos, ?_⟩
    rw [Nat.cast_one, div_one, Nat.cast_mul, cast_two_pow, Int.toNat_of_nonneg ‹_›]
  · refine ⟨two_pow_pos _, ?_⟩
    rw [cast_two_pow, Int.toNat_of_nonneg (by omega), zpow_neg, div_inv_eq_mul]

/-! ## Leading bits -/

theorem two_zpow_log2_le {n : Nat} (hn : n ≠ 0) : (2 : ℚ) ^ (n.log2 : Int) ≤ n := by
  rw [zpow_natCast]
  exact_mod_cast Nat.log2_self_le hn

theorem lt_two_zpow_log2 (n : Nat) : (n : ℚ) < 2 ^ ((n.log2 : Int) + 1) := by
  have h : n < 2 ^ (n.log2 + 1) := Nat.lt_log2_self
  rw [show (n.log2 : Int) + 1 = ((n.log2 + 1 : Nat) : Int) by push_cast; rfl, zpow_natCast]
  exact_mod_cast h

/-- **A ratio lies between the power of two of its leading bit and the next one.** -/
theorem leadingBit_spec {num den : Nat} (hnum : num ≠ 0) (hden : 0 < den) :
    (2 : ℚ) ^ leadingBit num den ≤ num / den ∧
      (num / den : ℚ) < 2 ^ (leadingBit num den + 1) := by
  have hden' : (0 : ℚ) < den := by exact_mod_cast hden
  have hlow := two_zpow_log2_le hnum
  have hhigh := lt_two_zpow_log2 num
  have hdlow := two_zpow_log2_le hden.ne'
  have hdhigh := lt_two_zpow_log2 den
  obtain ⟨hpos, hvalue⟩ := scaleDown_spec num hden ((num.log2 : Int) - den.log2)
  unfold leadingBit
  dsimp only
  generalize hk : (num.log2 : Int) - den.log2 = k at *
  have hpos' : (0 : ℚ) < (scaleDown num den k).2 := by exact_mod_cast hpos
  have hbelow : (2 : ℚ) ^ (k - 1) ≤ num / den := by
    rw [le_div_iff₀ hden']
    calc (2 : ℚ) ^ (k - 1) * den ≤ 2 ^ (k - 1) * 2 ^ ((den.log2 : Int) + 1) :=
          mul_le_mul_of_nonneg_left hdhigh.le (two_zpow_pos _).le
      _ = 2 ^ (num.log2 : Int) := by
          rw [← zpow_add₀ two_ne_zero]
          congr 1
          omega
      _ ≤ num := hlow
  have habove : (num / den : ℚ) < 2 ^ (k + 1) := by
    rw [div_lt_iff₀ hden']
    calc (num : ℚ) < 2 ^ ((num.log2 : Int) + 1) := hhigh
      _ = 2 ^ (k + 1) * 2 ^ (den.log2 : Int) := by
          rw [← zpow_add₀ two_ne_zero]
          congr 1
          omega
      _ ≤ 2 ^ (k + 1) * den := mul_le_mul_of_nonneg_left hdlow (two_zpow_pos _).le
  have hcompare :
      (scaleDown num den k).1 < (scaleDown num den k).2 ↔ (num / den : ℚ) < 2 ^ k := by
    rw [← div_lt_one (two_zpow_pos k), ← hvalue, div_lt_one hpos', Nat.cast_lt]
  split
  · exact ⟨hbelow, by rw [sub_add_cancel]; exact hcompare.1 ‹_›⟩
  · exact ⟨le_of_not_gt (hcompare.not.1 ‹_›), habove⟩

/-! ## Rounding -/

variable {num den k : Nat}

theorem roundQuotient_le (hden : 0 < den) (h : (num / den : ℚ) ≤ k) :
    roundQuotient num den ≤ k := by
  have hnum : num ≤ k * den := by
    rw [div_le_iff₀ (by exact_mod_cast hden)] at h
    exact_mod_cast h
  have hbound := (roundQuotient_bounds num den hden).2
  have hmul : 2 * roundQuotient num den * den ≤ (2 * k + 1) * den := by
    calc 2 * roundQuotient num den * den ≤ 2 * num + den := hbound
      _ ≤ 2 * (k * den) + den := by omega
      _ = (2 * k + 1) * den := by ring
  have := Nat.le_of_mul_le_mul_right hmul hden
  omega

theorem le_roundQuotient (hden : 0 < den) (h : (k : ℚ) ≤ num / den) :
    k ≤ roundQuotient num den := by
  have hnum : k * den ≤ num := by
    rw [le_div_iff₀ (by exact_mod_cast hden)] at h
    exact_mod_cast h
  have hbound := (roundQuotient_bounds num den hden).1
  have hmul : 2 * k * den ≤ (2 * roundQuotient num den + 1) * den := by
    calc 2 * k * den = 2 * (k * den) := by ring
      _ ≤ 2 * num := by omega
      _ ≤ (2 * roundQuotient num den + 1) * den := hbound
  have := Nat.le_of_mul_le_mul_right hmul hden
  omega

/-- The number is nearest to the natural number, unless it is half-way between two of them; then the
natural number is the even one. -/
structure RoundsTo (q : ℚ) (k : Nat) : Prop where
  low : (k - 1 / 2 : ℚ) ≤ q
  high : q ≤ k + 1 / 2
  odd : k % 2 = 1 → (k - 1 / 2 : ℚ) < q ∧ q < k + 1 / 2

/-- Half-way between two natural numbers, a quotient is rounded to the even one. -/
theorem roundQuotient_tie (hden : 0 < den) (h : (num / den : ℚ) = k + 1 / 2) :
    roundQuotient num den = k + k % 2 := by
  have hden' : (den : ℚ) ≠ 0 := by exact_mod_cast hden.ne'
  have htwice : 2 * num = (2 * k + 1) * den := by
    rw [div_eq_iff hden'] at h
    have : (2 * num : ℚ) = (2 * k + 1) * den := by
      rw [h]
      ring
    exact_mod_cast this
  have hsplit : (2 * k + 1) * den = 2 * (den * k) + den := by ring
  have hle : den * k ≤ num := by omega
  obtain ⟨hdiv, hmod⟩ := (Nat.div_mod_unique hden).2
    ⟨(by omega : num - den * k + den * k = num), (by omega : num - den * k < den)⟩
  unfold roundQuotient
  dsimp only
  rw [hdiv, hmod, if_neg (by omega), if_neg (by omega)]

/-- **A quotient is rounded to the natural number that it is nearest to.** -/
theorem roundQuotient_eq (hden : 0 < den) (h : RoundsTo (num / den) k) :
    roundQuotient num den = k := by
  have hden' : (0 : ℚ) < den := by exact_mod_cast hden
  obtain ⟨hbelow, habove⟩ := roundQuotient_bounds num den hden
  generalize hr : roundQuotient num den = r at hbelow habove
  have hhigh : (num / den : ℚ) ≤ r + 1 / 2 := by
    have : (2 * num : ℚ) ≤ (2 * r + 1) * den := by exact_mod_cast hbelow
    rw [div_le_iff₀ hden']
    linarith
  have hlow : (r - 1 / 2 : ℚ) ≤ num / den := by
    have : (2 * r * den : ℚ) ≤ 2 * num + den := by exact_mod_cast habove
    rw [le_div_iff₀ hden']
    linarith
  have hupper : r ≤ k + 1 := by
    have : (r : ℚ) ≤ k + 1 := by linarith [h.high]
    exact_mod_cast this
  have hlower : k ≤ r + 1 := by
    have : (k : ℚ) ≤ r + 1 := by linarith [h.low]
    exact_mod_cast this
  obtain rfl | rfl | rfl : r = k ∨ r = k + 1 ∨ k = r + 1 := by omega
  · rfl
  · -- The quotient is half-way above an even number, which is not the one it was rounded to.
    push_cast at hlow
    have hhalf : (num / den : ℚ) = k + 1 / 2 := by linarith [h.high]
    have htie := roundQuotient_tie hden hhalf
    exact absurd hhalf (h.odd (by omega)).2.ne
  · have hhalf : (num / den : ℚ) = r + 1 / 2 := by
      have hbound := h.low
      push_cast at hbound
      linarith
    have htie := roundQuotient_tie hden hhalf
    have hstrict := (h.odd (by omega)).1
    push_cast at hstrict
    linarith

/-- The number is finite, and its mantissa and exponent are in range. Mantissas have all bits,
except at the least exponent. -/
inductive Ranged : Binary64 → Prop where
  | finite (negative : Bool) {m : Nat} {e : Int} (hm : m < 2 ^ 53) (hleast : leastExponent ≤ e)
      (hgreatest : e ≤ greatestExponent) (hnormal : e = leastExponent ∨ 2 ^ 52 ≤ m) :
      Ranged (finite negative m e)

/-- The zeros are in range. -/
theorem ranged_zero (negative : Bool) : Ranged (.finite negative 0 leastExponent) :=
  .finite negative (by decide) (le_refl _) (by decide) (.inl rfl)

theorem Ranged.neg {x : Binary64} (h : x.Ranged) : x.neg.Ranged := by
  cases h with
  | finite negative hm hleast hgreatest hnormal => exact .finite _ hm hleast hgreatest hnormal

/-- Numbers in range do not exceed the greatest one. -/
theorem Ranged.magnitude_le {x : Binary64} (h : x.Ranged) : x.magnitude ≤ greatest := by
  cases h with
  | @finite negative m e hm hleast hgreatest _ =>
    have hm' : (m : ℚ) ≤ 2 ^ 53 - 1 := by
      have : m + 1 ≤ 2 ^ 53 := hm
      rw [le_sub_iff_add_le]
      exact_mod_cast this
    have he : (2 : ℚ) ^ e ≤ 2 ^ greatestExponent := zpow_le_zpow_right₀ one_le_two hgreatest
    exact mul_le_mul hm' he (two_zpow_pos e).le (by norm_num)

/-- A mantissa of 54 bits is a power of two, which is packed one exponent higher. -/
theorem pack_carry (negative : Bool) (e : Int) : pack negative (2 ^ 53) e =
    if greatestExponent < e + 1 then infinite negative else finite negative (2 ^ 52) (e + 1) := by
  rw [pack, if_pos (show 2 ^ 53 = Nat.pow 2 precision from rfl)]
  rfl

theorem pack_of_ne (negative : Bool) {m : Nat} (e : Int) (hm : m ≠ 2 ^ 53) : pack negative m e =
    if greatestExponent < e then infinite negative else finite negative m e := by
  rw [pack, if_neg (show m ≠ Nat.pow 2 precision from hm)]

/-- A mantissa of at most 54 bits is packed into a number in range or an infinity; the latter takes
an exponent out of range, or the greatest one and a mantissa of 54 bits. -/
theorem pack_spec (negative : Bool) {m : Nat} {e : Int} (hm : m ≤ 2 ^ 53)
    (hleast : leastExponent ≤ e) (hnormal : e = leastExponent ∨ 2 ^ 52 ≤ m) :
    (Ranged (pack negative m e) ∧ (pack negative m e).magnitude = m * 2 ^ e) ∨
      (pack negative m e = infinite negative ∧
        (greatestExponent < e ∨ (greatestExponent = e ∧ m = 2 ^ 53))) := by
  by_cases hcarry : m = 2 ^ 53
  · rw [hcarry, pack_carry]
    split
    · exact .inr ⟨rfl, by omega⟩
    · refine .inl ⟨.finite negative (by decide) (by omega) (by omega) (.inr (le_refl _)), ?_⟩
      rw [magnitude, zpow_add_one₀ two_ne_zero]
      push_cast
      ring
  · rw [pack_of_ne negative e hcarry]
    split
    · exact .inr ⟨rfl, .inl ‹_›⟩
    · exact .inl ⟨.finite negative (by omega) hleast (by omega) hnormal, rfl⟩

/-- What a quotient is rounded to: a mantissa at the exponent that has room for 53 bits. -/
structure Rounding (negative : Bool) (num den : Nat) (m : Nat) (e : Int) : Prop where
  packed : ofRatio negative num den = pack negative m e
  exponent : e = max leastExponent (leadingBit num den - 52)
  /-- The mantissa is rounded up at most to the next integer. -/
  upper : ∀ k : Nat, (num / den : ℚ) ≤ k * 2 ^ e → m ≤ k
  lower : ∀ k : Nat, (k * 2 ^ e : ℚ) ≤ num / den → k ≤ m
  closest : ∀ k : Nat, RoundsTo (num / den / 2 ^ e) k → m = k

/-- Above the least exponent, the mantissa has all bits. -/
theorem Rounding.normal {negative : Bool} {m : Nat} {e : Int} (h : Rounding negative num den m e)
    (hnum : num ≠ 0) (hden : 0 < den) : e = leastExponent ∨ 2 ^ 52 ≤ m := by
  by_cases hleast : e = leastExponent
  · exact .inl hleast
  · have he := h.exponent
    refine .inr (h.lower _ (le_of_eq_of_le ?_ (leadingBit_spec hnum hden).1))
    rw [show leadingBit num den = 52 + e by omega, zpow_add₀ two_ne_zero]
    norm_num

theorem ofRatio_spec (negative : Bool) (hnum : num ≠ 0) (hden : 0 < den) :
    ∃ m e, Rounding negative num den m e ∧ m ≤ 2 ^ 53 ∧ leastExponent ≤ e := by
  obtain ⟨e, he⟩ : ∃ e, e = max leastExponent (leadingBit num den - 52) := ⟨_, rfl⟩
  obtain ⟨hpos, hvalue⟩ := scaleDown_spec num hden e
  have hupper : ∀ k : Nat, (num / den : ℚ) ≤ k * 2 ^ e →
      roundQuotient (scaleDown num den e).1 (scaleDown num den e).2 ≤ k := by
    intro k hk
    refine roundQuotient_le hpos ?_
    rwa [hvalue, div_le_iff₀ (two_zpow_pos e)]
  have hlower : ∀ k : Nat, (k * 2 ^ e : ℚ) ≤ num / den →
      k ≤ roundQuotient (scaleDown num den e).1 (scaleDown num den e).2 := by
    intro k hk
    refine le_roundQuotient hpos ?_
    rwa [hvalue, le_div_iff₀ (two_zpow_pos e)]
  have hclosest : ∀ k : Nat, RoundsTo (num / den / 2 ^ e) k →
      roundQuotient (scaleDown num den e).1 (scaleDown num den e).2 = k := by
    intro k hk
    rw [← hvalue] at hk
    exact roundQuotient_eq hpos hk
  refine ⟨_, e, ⟨?_, he, hupper, hlower, hclosest⟩, hupper _ ?_, he ▸ le_max_left _ _⟩
  · rw [ofRatio, if_neg hnum, he]
    rfl
  · calc (num / den : ℚ) ≤ 2 ^ (leadingBit num den + 1) := (leadingBit_spec hnum hden).2.le
      _ ≤ 2 ^ (53 + e) := zpow_le_zpow_right₀ one_le_two (by omega)
      _ = ((2 ^ 53 : Nat) : ℚ) * 2 ^ e := by
        rw [zpow_add₀ two_ne_zero]
        norm_num

/-- **A rounded quotient is in range or infinite.** -/
theorem ranged_or_infinite (negative : Bool) (num : Nat) (hden : 0 < den) :
    Ranged (ofRatio negative num den) ∨ ofRatio negative num den = infinite negative := by
  by_cases hnum : num = 0
  · rw [ofRatio, if_pos hnum]
    exact .inl (ranged_zero negative)
  · obtain ⟨m, e, hround, hm, hleast⟩ := ofRatio_spec negative hnum hden
    rw [hround.packed]
    exact (pack_spec negative hm hleast (hround.normal hnum hden)).imp And.left And.left

/-- **A quotient up to the greatest finite number is not rounded to infinity.** -/
theorem ranged_ofRatio (negative : Bool) (hden : 0 < den) (h : (num / den : ℚ) ≤ greatest) :
    Ranged (ofRatio negative num den) := by
  by_cases hnum : num = 0
  · rw [ofRatio, if_pos hnum]
    exact ranged_zero negative
  · obtain ⟨m, e, hround, hm, hleast⟩ := ofRatio_spec negative hnum hden
    rw [hround.packed]
    obtain ⟨hranged, -⟩ | ⟨-, hexceeds⟩ :=
      pack_spec negative hm hleast (hround.normal hnum hden)
    · exact hranged
    · -- The leading bit of what does not exceed the greatest number leaves no other exponents.
      have hbit : leadingBit num den < 1024 := by
        have hgreatest : greatest < 2 ^ (1024 : Int) := by
          rw [show (1024 : Int) = 53 + greatestExponent from rfl, zpow_add₀ two_ne_zero]
          exact mul_lt_mul_of_pos_right (by norm_num) (two_zpow_pos _)
        exact (zpow_lt_zpow_iff_right₀ one_lt_two).1
          (((leadingBit_spec hnum hden).1.trans h).trans_lt hgreatest)
      have he := hround.exponent
      simp only [greatestExponent, leastExponent] at hexceeds hleast he
      obtain ⟨hmax, hcarry⟩ := hexceeds.resolve_left (by omega)
      have hbelow : m ≤ 2 ^ 53 - 1 := by
        refine hround.upper _ (h.trans_eq ?_)
        rw [greatest, greatestExponent, hmax]
        norm_num
      omega

/-! ## Operations -/

/-- A product that is finite is in range. -/
theorem ranged_mul {x y : Binary64} (h : (x.mul y).isFinite = true) : (x.mul y).Ranged := by
  unfold mul at h ⊢
  split at h
  · rename_i s m e t n f
    refine (ranged_or_infinite _ _ (ratio_spec (m * n) (e + f)).1).resolve_right fun hinfinite => ?_
    rw [hinfinite] at h
    cases h
  all_goals (try split at h) <;> cases h

/-- **A quotient by a number that is not less than one is in range.** -/
theorem ranged_div {x y : Binary64} (hx : x.Ranged) (hy : y.Ranged) (hone : 1 ≤ y.magnitude) :
    (x.div y).Ranged := by
  have hgreatest := hx.magnitude_le
  cases hx with
  | @finite s m e hm hleast _ _ =>
    cases hy with
    | @finite t n f hn _ _ _ =>
      have hzero : n ≠ 0 := by
        rintro rfl
        rw [magnitude, Nat.cast_zero, zero_mul] at hone
        exact absurd hone (by norm_num)
      obtain ⟨hpos, hnum⟩ := ratio_spec m e
      obtain ⟨hpos', hden⟩ := ratio_spec n f
      have hratio : 0 < (ratio n f).1 := by
        have : (0 : ℚ) < (ratio n f).1 / (ratio n f).2 := by
          rw [hden]
          exact one_pos.trans_le hone
        rw [div_pos_iff_of_pos_right (by exact_mod_cast hpos')] at this
        exact_mod_cast this
      rw [div, if_neg hzero]
      refine ranged_ofRatio _ (Nat.mul_pos hpos hratio) ?_
      rw [Nat.cast_mul, Nat.cast_mul, ← div_div_div_eq, hnum, hden]
      refine (div_le_self ?_ hone).trans hgreatest
      exact mul_nonneg m.cast_nonneg (two_zpow_pos e).le

/-- A natural number up to the greatest finite number is rounded to a number in range, which is not
less than one unless the natural number is zero. -/
theorem ranged_ofNat {n : Nat} (h : (n : ℚ) ≤ greatest) : (ofNat n).Ranged :=
  ranged_ofRatio false one_pos (by rwa [Nat.cast_one, div_one])

theorem one_le_magnitude_ofNat {n : Nat} (hn : n ≠ 0) (h : (n : ℚ) ≤ greatest) :
    1 ≤ (ofNat n).magnitude := by
  obtain ⟨m, e, hround, hm, hleast⟩ := ofRatio_spec false hn one_pos
  have hranged := ranged_ofNat h
  rw [ofNat, hround.packed] at hranged ⊢
  obtain ⟨-, hvalue⟩ | ⟨hinfinite, -⟩ :=
      pack_spec false hm hleast (hround.normal hn one_pos)
  · have hhigh := (leadingBit_spec hn one_pos).2
    have hbit : -1 < leadingBit n 1 := by
      have hone : (1 : ℚ) ≤ n / (1 : Nat) := by
        rw [Nat.cast_one, div_one]
        exact_mod_cast Nat.one_le_iff_ne_zero.2 hn
      have := (zpow_lt_zpow_iff_right₀ (one_lt_two (α := ℚ))).1
        ((zpow_zero (2 : ℚ)).trans_le hone |>.trans_lt hhigh)
      omega
    have he := hround.exponent
    simp only [leastExponent] at he
    have hmantissa : 2 ^ 52 ≤ m := by
      refine (hround.normal hn one_pos).resolve_left ?_
      rw [leastExponent]
      omega
    rw [hvalue]
    calc (1 : ℚ) = 2 ^ 52 * 2 ^ (-52 : Int) := by norm_num
      _ ≤ m * 2 ^ e :=
        mul_le_mul (by exact_mod_cast hmantissa) (zpow_le_zpow_right₀ one_le_two (by omega))
          (two_zpow_pos _).le m.cast_nonneg
  · rw [hinfinite] at hranged
    cases hranged

end Binary64

namespace DecimalLiteral

open Binary64

variable {x y : Binary64} {e : Int} {k : Nat}

/-! ## Scaled numbers -/

/-- The powers of ten in the table are not too large. -/
theorem power_le_greatest (hk : k ≤ greatestPower) : ((Nat.pow 10 k : Nat) : ℚ) ≤ greatest := by
  have hpower : 10 ^ k ≤ 10 ^ greatestPower := Nat.pow_le_pow_right (by decide) hk
  have htable : 10 ^ greatestPower ≤ (2 ^ 53 - 1) * Nat.pow 2 greatestExponent.toNat := by
    decide +kernel
  have hgreatest : greatest = (((2 ^ 53 - 1) * Nat.pow 2 greatestExponent.toNat : Nat) : ℚ) := by
    rw [greatest, Nat.cast_mul, cast_two_pow, Int.toNat_of_nonneg (by decide)]
    norm_num
  rw [hgreatest, Nat.pow_eq]
  exact_mod_cast hpower.trans htable

theorem ranged_div_power (hx : x.Ranged) (hk : k ≤ greatestPower) :
    (x.div (ofNat (Nat.pow 10 k))).Ranged := by
  have hle := power_le_greatest hk
  have hne : Nat.pow 10 k ≠ 0 := (Nat.pow_pos (by decide)).ne'
  exact ranged_div hx (ranged_ofNat hle) (one_le_magnitude_ofNat hne hle)

theorem ranged_scaleOnce (hx : x.Ranged) (he : e.natAbs ≤ greatestPower)
    (h : scaleOnce x e = some y) : y.Ranged := by
  unfold scaleOnce at h
  dsimp only at h
  split at h
  · split at h
    · cases h
      exact ranged_mul ‹_›
    · cases h
  · cases h
    exact ranged_div_power hx he

/-- A number stays in range through any number of steps. -/
theorem ranged_scaleDown {steps : Nat} (hx : x.Ranged) (h : scaleDown x e steps = some y) :
    y.Ranged := by
  induction steps generalizing x e with
  | zero =>
    cases h
    exact hx
  | succ steps ih =>
    rw [scaleDown] at h
    split at h
    · exact ranged_scaleOnce hx ‹_› h
    · split at h
      · cases h
        exact hx
      · exact ih (ranged_div_power hx (le_refl _)) h

theorem ranged_scale (hx : x.Ranged) (h : scale x e = some y) : y.Ranged := by
  unfold scale at h
  split at h
  · exact ranged_scaleOnce hx ‹_› h
  · split at h
    · cases h
      exact hx
    · split at h
      · cases h
      · exact ranged_scaleDown hx h

/-- Digits before the point are only taken while they fit. -/
theorem readWhole_lt {value : Nat} {ds : List Nat} (h : value < wordBound) :
    (readWhole value ds).value < wordBound := by
  induction ds generalizing value with
  | nil => exact h
  | cons d ds ih =>
    rw [readWhole]
    split
    · exact ih ‹_›
    · exact h

/-- So are digits after the point. -/
theorem readFraction_lt {w : Word} {ds : List Nat} (h : w.value < wordBound) :
    (readFraction w ds).value < wordBound := by
  induction ds generalizing w with
  | nil => exact h
  | cons d ds ih =>
    rw [readFraction]
    split
    · exact ih ‹_›
    · exact h

/-- Words are far below the greatest number. -/
theorem ranged_word (negative : Bool) {n : Nat} (h : n ≤ wordBound) :
    (ofRatio negative n 1).Ranged := by
  refine ranged_ofRatio negative one_pos ?_
  rw [Nat.cast_one, div_one]
  have hword : wordBound ≤ Nat.pow 10 20 := by decide
  refine le_trans ?_ (power_le_greatest (k := 20) (by decide))
  exact_mod_cast h.trans hword

/-- **What is read by scaling is in range.** -/
theorem ranged_of_scaled? {d : DecimalLiteral} (h : d.scaled? = some x) : x.Ranged := by
  have hword : (readFraction (readWhole 0 d.whole) d.fraction).value < wordBound :=
    readFraction_lt (readWhole_lt (by decide))
  unfold scaled? at h
  dsimp only at h
  obtain ⟨y, hy, rfl⟩ := Option.map_eq_some_iff.1 h
  have hranged : y.Ranged := by
    split at hy
    · exact ranged_scale (ranged_word false hword.le) hy
    · split at hy
      · cases hy
        exact ranged_zero false
      · cases hy
  split
  · exact hranged.neg
  · exact hranged

/-! ## Nearest numbers -/

/-- **The nearest number is in range or infinite.** -/
theorem ranged_nearest_or_infinite (d : DecimalLiteral) :
    d.nearest.Ranged ∨ d.nearest = .infinite d.negative := by
  unfold nearest
  dsimp only
  split
  · exact .inl (ranged_zero _)
  · split
    · exact .inr rfl
    · split
      · exact ranged_or_infinite _ _ one_pos
      · exact ranged_or_infinite _ _ (Nat.pow_pos (by decide))

theorem ranged_nearest {d : DecimalLiteral} (h : d.nearest.isFinite = true) : d.nearest.Ranged := by
  refine d.ranged_nearest_or_infinite.resolve_right fun hinfinite => ?_
  rw [hinfinite] at h
  cases h

end DecimalLiteral

end TypedRequests
