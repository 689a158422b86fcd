import Mathlib.Tactic.FieldSimp
import TypedRequests.Number.Shortest
import TypedRequests.Proofs.RangedNumbers

/-!
# Shortest decimals are read back

The shortest decimal of a number other than zero is rounded to this number. The search for it ends
on a grid with a point in the interval of the number: the last of the twenty-two grids is finer than
half a unit of the last bit. So a decimal with these digits is read as the number.

* `Binary64.ReadsBack`, `Binary64.ofRatio_of_readsBack` : the rational numbers that are rounded to a
  finite number.
* `Shortest.readsBack_decimal` : the shortest decimal is among them.
* `DecimalLiteral.nearest_of_readsBack` : a literal with the digits is read as the number.
-/

set_option autoImplicit false

namespace TypedRequests

/-! ## Powers of ten and of two -/

/-- Three tens are less than ten twos. -/
theorem ten_pow_le (n : Nat) {s : Int} (h : 10 * n ≤ 3 * s) : (10 : ℚ) ^ n ≤ 2 ^ s := by
  refine le_of_pow_le_pow_left₀ three_ne_zero (Binary64.two_zpow_pos s).le ?_
  calc ((10 : ℚ) ^ n) ^ 3 = (10 ^ 3) ^ n := pow_right_comm _ _ _
    _ ≤ (2 ^ 10) ^ n := pow_le_pow_left₀ (by norm_num) (by norm_num) n
    _ = 2 ^ (10 * n : Int) := by rw [← pow_mul, ← zpow_natCast, Nat.cast_mul, Nat.cast_ofNat]
    _ ≤ 2 ^ (s * 3) := zpow_le_zpow_right₀ one_le_two (by omega)
    _ = ((2 : ℚ) ^ s) ^ 3 := by rw [zpow_mul]; rfl

/-- Ten tens are more than thirty-three twos. -/
theorem le_ten_pow (n : Nat) {s : Int} (h : 10 * s ≤ 33 * n) : (2 : ℚ) ^ s ≤ 10 ^ n := by
  refine le_of_pow_le_pow_left₀ (show 10 ≠ 0 by decide) (by positivity) ?_
  calc ((2 : ℚ) ^ s) ^ 10 = 2 ^ (s * 10) := by rw [zpow_mul]; rfl
    _ ≤ 2 ^ (33 * n : Int) := zpow_le_zpow_right₀ one_le_two (by omega)
    _ = (2 ^ 33) ^ n := by rw [← pow_mul, ← zpow_natCast, Nat.cast_mul, Nat.cast_ofNat]
    _ ≤ (10 ^ 10) ^ n := pow_le_pow_left₀ (by norm_num) (by norm_num) n
    _ = ((10 : ℚ) ^ n) ^ 10 := pow_right_comm _ _ _

theorem ten_zpow_le {t s : Int} (h : 10 * t ≤ 3 * s) (hneg : 33 * t ≤ 10 * s) :
    (10 : ℚ) ^ t ≤ 2 ^ s := by
  obtain ⟨n, rfl | rfl⟩ := t.eq_nat_or_neg
  · rw [zpow_natCast]
    exact ten_pow_le n h
  · rw [zpow_neg, zpow_natCast, inv_le_comm₀ (by positivity) (Binary64.two_zpow_pos s), ← zpow_neg]
    exact le_ten_pow n (by omega)

theorem le_ten_zpow {t s : Int} (h : 10 * s ≤ 33 * t) (hneg : 3 * s ≤ 10 * t) :
    (2 : ℚ) ^ s ≤ 10 ^ t := by
  have hinv : (10 : ℚ) ^ (-t) ≤ 2 ^ (-s) := ten_zpow_le (by omega) (by omega)
  rw [zpow_neg, zpow_neg] at hinv
  exact (inv_le_inv₀ (by positivity) (Binary64.two_zpow_pos s)).1 hinv

namespace Binary64

variable {negative : Bool} {m num den : Nat} {e : Int} {q : ℚ}

/-! ## What is rounded to a number -/

/-- A rational number is rounded to `m · 2 ^ e`: it is at most half a unit of the last bit away, or
a quarter where the neighbour below a power of two is nearer. -/
structure ReadsBack (m : Nat) (e : Int) (q : ℚ) : Prop extends RoundsTo (q / 2 ^ e) m where
  narrow : m = 2 ^ 52 → leastExponent < e → (m - 1 / 4 : ℚ) ≤ q / 2 ^ e

/-- No number but zero is rounded to from zero. -/
theorem ReadsBack.pos (h : ReadsBack m e q) (hm : m ≠ 0) : 0 < q := by
  have hone : (1 : ℚ) ≤ m := by exact_mod_cast Nat.one_le_iff_ne_zero.2 hm
  have hscaled : 0 < q / 2 ^ e := by linarith [h.low]
  exact (div_pos_iff_of_pos_right (two_zpow_pos e)).1 hscaled

/-- A mantissa of 53 bits leaves no room for a further bit. -/
theorem ReadsBack.lt (h : ReadsBack m e q) (hm : m < 2 ^ 53) : q < 2 ^ (53 + e) := by
  have hmantissa : (m + 1 : ℚ) ≤ 2 ^ 53 := by exact_mod_cast hm
  have hscaled : q / 2 ^ e < 2 ^ 53 := by linarith [h.high]
  rw [zpow_add₀ two_ne_zero]
  exact (div_lt_iff₀ (two_zpow_pos e)).1 hscaled

/-- The exponent of a rounded quotient is that of the number. Only below a power of two it may be
one less. -/
theorem exponent_of_readsBack (hranged : (finite negative m e).Ranged) (hnum : num ≠ 0)
    (hden : 0 < den) (h : ReadsBack m e (num / den)) :
    max leastExponent (leadingBit num den - 52) = e ∨
      (max leastExponent (leadingBit num den - 52) = e - 1 ∧ m = 2 ^ 52 ∧ leastExponent < e) := by
  cases hranged with
  | finite _ hm hleast _ hnormal =>
    obtain ⟨hlow, hhigh⟩ := leadingBit_spec hnum hden
    have hupper : leadingBit num den < 53 + e :=
      (zpow_lt_zpow_iff_right₀ one_lt_two).1 (hlow.trans_lt (h.lt hm))
    obtain rfl | hmore := hleast.eq_or_lt
    · exact .inl (by omega)
    · have hbit : ∀ k : Int, (2 ^ k : ℚ) ≤ num / den / 2 ^ e → k + e ≤ leadingBit num den := by
        intro k hk
        rw [le_div_iff₀ (two_zpow_pos e), ← zpow_add₀ two_ne_zero] at hk
        have := (zpow_lt_zpow_iff_right₀ (one_lt_two (α := ℚ))).1 (hk.trans_lt hhigh)
        omega
      by_cases hfull : (2 ^ (52 : Int) : ℚ) ≤ num / den / 2 ^ e
      · have := hbit 52 hfull
        exact .inl (by omega)
      · have hpower : m = 2 ^ 52 := by
          have hless : (m : ℚ) < (2 ^ 52 : Nat) + 1 := by
            push_cast
            rw [not_le, show (52 : Int) = (52 : Nat) from rfl, zpow_natCast] at hfull
            linarith [h.low]
          have : m < 2 ^ 52 + 1 := by exact_mod_cast hless
          omega
        have hhalf : (2 ^ (51 : Int) : ℚ) ≤ num / den / 2 ^ e := by
          refine le_trans ?_ (h.narrow hpower hmore)
          rw [hpower]
          norm_num
        have := hbit 51 hhalf
        have hbelow : leadingBit num den < 52 + e := by
          refine (zpow_lt_zpow_iff_right₀ (one_lt_two (α := ℚ))).1 (hlow.trans_lt ?_)
          rw [zpow_add₀ two_ne_zero]
          exact (div_lt_iff₀ (two_zpow_pos e)).1 (not_le.1 hfull)
        exact .inr ⟨by omega, hpower, hmore⟩

/-- **A quotient is rounded to the number that it is nearest to.** -/
theorem ofRatio_of_readsBack (hranged : (finite negative m e).Ranged) (hm : m ≠ 0) (hden : 0 < den)
    (h : ReadsBack m e (num / den)) : ofRatio negative num den = finite negative m e := by
  have hnum : num ≠ 0 := by
    rintro rfl
    have := h.pos hm
    rw [Nat.cast_zero, zero_div] at this
    exact lt_irrefl _ this
  obtain ⟨m', e', hround, -, -⟩ := ofRatio_spec negative hnum hden
  rw [hround.packed]
  have he' := hround.exponent
  obtain he | ⟨he, hpower, hmore⟩ := exponent_of_readsBack hranged hnum hden h
  · obtain rfl := he'.trans he
    cases hranged with
    | finite _ hbits _ hgreatest _ =>
      rw [hround.closest m h.toRoundsTo, pack_of_ne _ _ hbits.ne, if_neg (not_lt.2 hgreatest)]
  · -- The quotient is below a power of two, and twice as many units are rounded up to it.
    obtain rfl := he'.trans he
    have hbelow : (num / den / 2 ^ e : ℚ) < 2 ^ 52 := by
      rw [div_lt_iff₀ (two_zpow_pos e)]
      calc (num / den : ℚ) < 2 ^ (leadingBit num den + 1) := (leadingBit_spec hnum hden).2
        _ ≤ 2 ^ (52 + e) := zpow_le_zpow_right₀ one_le_two (by omega)
        _ = 2 ^ 52 * 2 ^ e := zpow_add₀ two_ne_zero _ _
    have hnarrow := h.narrow hpower hmore
    have htwice : (num / den / 2 ^ (e - 1) : ℚ) = 2 * (num / den / 2 ^ e) := by
      rw [zpow_sub_one₀ two_ne_zero, ← div_div, div_inv_eq_mul, mul_comm]
    have hcarry : RoundsTo (num / den / 2 ^ (e - 1)) (2 ^ 53) := by
      rw [hpower] at hnarrow
      rw [htwice]
      push_cast at hnarrow ⊢
      refine ⟨?_, ?_, fun hodd => absurd hodd (by decide)⟩
      · linarith
      · linarith
    cases hranged with
    | finite _ _ _ hgreatest _ =>
      rw [hround.closest _ hcarry, pack_carry, sub_add_cancel, if_neg (not_lt.2 hgreatest), hpower]

end Binary64

namespace Shortest

variable {tie : Tie} {i : Interval} {t e : Int} {m k steps : Nat}

/-! ## The search for a decimal -/

theorem Interval.Holds.le (h : i.Holds t k) :
    i.low * valueUnit i t ≤ k * gridUnit i t ∧ k * gridUnit i t ≤ i.high * valueUnit i t := by
  unfold Interval.Holds at h
  split at h
  · exact h
  · exact ⟨h.1.le, h.2.le⟩

theorem Interval.Holds.lt (h : i.Holds t k) (hopen : i.closed = false) :
    i.low * valueUnit i t < k * gridUnit i t ∧ k * gridUnit i t < i.high * valueUnit i t := by
  unfold Interval.Holds at h
  rwa [if_neg (hopen ▸ Bool.false_ne_true)] at h

/-- What is taken from a grid lies in the interval. -/
theorem holds_of_onGrid (h : onGrid tie i t = some k) : i.Holds t k := by
  unfold onGrid at h
  dsimp only at h
  split at h
  · rename_i hfirst
    split at h
    · rename_i hsecond
      split at h
      · exact Option.some.inj h ▸ hfirst.1
      · split at h
        · exact Option.some.inj h ▸ hsecond
        · cases tie with
          | up => exact Option.some.inj h ▸ hsecond
          | even =>
            dsimp only at h
            split at h
            · exact Option.some.inj h ▸ hfirst.1
            · exact Option.some.inj h ▸ hsecond
    · exact Option.some.inj h ▸ hfirst.1
  · split at h
    · rename_i hsecond
      exact Option.some.inj h ▸ hsecond
    · cases h

/-- Something is taken from a grid with a point just above the value. -/
theorem exists_onGrid (h : i.Holds t (i.value * valueUnit i t / gridUnit i t + 1)) :
    ∃ k, onGrid tie i t = some k := by
  unfold onGrid
  dsimp only
  rw [if_pos h, if_pos h]
  split
  · split
    · exact ⟨_, rfl⟩
    · split
      · exact ⟨_, rfl⟩
      · cases tie <;> exact ⟨_, rfl⟩
  · exact ⟨_, rfl⟩

theorem gridUnit_pos (m : Nat) (e t : Int) : 0 < gridUnit (intervalOf m e) t :=
  Nat.mul_pos (Nat.pow_pos (by decide)) (Binary64.ratio_spec 1 (e - 2)).1

/-- A grid finer than half a unit of the last bit has a point just above the value. -/
theorem holds_above (h : gridUnit (intervalOf m e) t < 2 * valueUnit (intervalOf m e) t) :
    (intervalOf m e).Holds t ((intervalOf m e).value * valueUnit (intervalOf m e) t /
      gridUnit (intervalOf m e) t + 1) := by
  have hgrid := gridUnit_pos m e t
  have hvalue : (intervalOf m e).value = 4 * m := rfl
  have hhigh : (intervalOf m e).high = 4 * m + 2 := rfl
  have hlow : (intervalOf m e).low ≤ 4 * m := Nat.sub_le _ _
  unfold Interval.Holds
  rw [hvalue, hhigh]
  generalize gridUnit (intervalOf m e) t = g at h hgrid ⊢
  generalize valueUnit (intervalOf m e) t = u at h ⊢
  have habove : 4 * m * u < (4 * m * u / g + 1) * g :=
    Nat.lt_mul_of_div_lt (Nat.lt_succ_self _) hgrid
  have hbelow : 4 * m * u / g * g ≤ 4 * m * u := Nat.div_mul_le_self _ _
  have hleft : (intervalOf m e).low * u < (4 * m * u / g + 1) * g :=
    (Nat.mul_le_mul_right u hlow).trans_lt habove
  have hright : (4 * m * u / g + 1) * g < (4 * m + 2) * u := by
    rw [Nat.add_mul, Nat.add_mul]
    omega
  split
  · exact ⟨hleft.le, hright.le⟩
  · exact ⟨hleft, hright⟩

/-- **The search ends in the interval** when the last of its grids is fine enough. -/
theorem holds_coarsest (h : gridUnit (intervalOf m e) (t - steps) <
    2 * valueUnit (intervalOf m e) (t - steps)) :
    (intervalOf m e).Holds (coarsest tie (intervalOf m e) t (steps + 1)).2
      (coarsest tie (intervalOf m e) t (steps + 1)).1 := by
  induction steps generalizing t with
  | zero =>
    rw [Nat.cast_zero, sub_zero] at h
    obtain ⟨k, hk⟩ : ∃ k, onGrid tie (intervalOf m e) t = some k := exists_onGrid (holds_above h)
    rw [coarsest, hk]
    exact holds_of_onGrid hk
  | succ steps ih =>
    rw [coarsest]
    cases hgrid : onGrid tie (intervalOf m e) t with
    | some k => exact holds_of_onGrid hgrid
    | none =>
      refine ih ?_
      rwa [sub_sub, add_comm (1 : Int), ← Nat.cast_succ]

/-- The search does not go beyond the last of its grids. -/
theorem le_coarsest (tie : Tie) (i : Interval) (t : Int) (steps : Nat) :
    t - steps ≤ (coarsest tie i t steps).2 := by
  induction steps generalizing t with
  | zero => exact (sub_zero t).le
  | succ steps ih =>
    rw [coarsest]
    cases onGrid tie i t with
    | some k => exact sub_le_self _ (Int.natCast_nonneg _)
    | none => exact le_trans (by omega) (ih (t - 1))

/-! ## Decimals as rational numbers -/

/-- The two sides of the comparisons are a decimal and a quarter of a unit of the last bit on one
scale. -/
theorem units_spec (m : Nat) (e t : Int) : ∃ scale : ℚ, 0 < scale ∧
    (valueUnit (intervalOf m e) t : ℚ) = scale / 4 ∧
      (gridUnit (intervalOf m e) t : ℚ) = scale * (10 ^ t / 2 ^ e) := by
  obtain ⟨hden, hunit⟩ := Binary64.ratio_spec 1 (e - 2)
  have hvalue : valueUnit (intervalOf m e) t =
      10 ^ (-t).toNat * (Binary64.ratio 1 (e - 2)).1 := rfl
  have hgrid : gridUnit (intervalOf m e) t = 10 ^ t.toNat * (Binary64.ratio 1 (e - 2)).2 := rfl
  rw [hvalue, hgrid]
  generalize Binary64.ratio 1 (e - 2) = unit at hden hunit ⊢
  have hden' : (0 : ℚ) < unit.2 := by exact_mod_cast hden
  have hnum : (unit.1 : ℚ) = 2 ^ e / 4 * unit.2 := by
    rw [Nat.cast_one, one_mul, zpow_sub₀ two_ne_zero, div_eq_iff hden'.ne'] at hunit
    exact hunit
  have hten : (10 : ℚ) ^ t.toNat = 10 ^ (-t).toNat * 10 ^ t := by
    rw [← zpow_natCast, ← zpow_natCast, ← zpow_add₀ (by norm_num)]
    congr 1
    omega
  have hexponent : (2 : ℚ) ^ e ≠ 0 := (Binary64.two_zpow_pos e).ne'
  refine ⟨10 ^ (-t).toNat * (2 ^ e * unit.2), by positivity, ?_, ?_⟩
  · rw [Nat.cast_mul, Nat.cast_pow, Nat.cast_ofNat, hnum]
    ring
  · rw [Nat.cast_mul, Nat.cast_pow, Nat.cast_ofNat, hten]
    field_simp

/-- Below a power of two, the interval is narrower. -/
theorem le_low (m : Nat) (e : Int) : 4 * m ≤ (intervalOf m e).low + 2 ∧
    (m = 2 ^ 52 → Binary64.leastExponent < e → 4 * m ≤ (intervalOf m e).low + 1) := by
  unfold intervalOf
  dsimp only
  split
  · exact ⟨by omega, fun _ _ => by omega⟩
  · rename_i hwide
    exact ⟨by omega, fun hpower hmore => absurd ⟨hpower, hmore⟩ hwide⟩

/-- **A decimal in the interval is rounded to the number.** -/
theorem readsBack_of_holds (h : (intervalOf m e).Holds t k) :
    Binary64.ReadsBack m e (k * 10 ^ t) := by
  obtain ⟨scale, hscale, hvalue, hgrid⟩ := units_spec m e t
  obtain ⟨hlow, hnarrow⟩ := le_low m e
  have hbounds := h.le
  have hstrict := fun hodd : m % 2 = 1 => h.lt (decide_eq_false (by omega))
  rw [show (intervalOf m e).high = 4 * m + 2 from rfl] at hbounds hstrict
  generalize (intervalOf m e).low = low at hlow hnarrow hbounds hstrict
  generalize valueUnit (intervalOf m e) t = u at hvalue hbounds hstrict
  generalize gridUnit (intervalOf m e) t = g at hgrid hbounds hstrict
  have hquarters : ∀ x : Nat, ((x * u : Nat) : ℚ) = scale * (x / 4) := by
    intro x
    rw [Nat.cast_mul, hvalue]
    ring
  have hdecimal : ((k * g : Nat) : ℚ) = scale * (k * 10 ^ t / 2 ^ e) := by
    rw [Nat.cast_mul, hgrid]
    ring
  simp only [← Nat.cast_le (α := ℚ), ← Nat.cast_lt (α := ℚ), hquarters, hdecimal,
    mul_le_mul_iff_right₀ hscale, mul_lt_mul_iff_right₀ hscale] at hbounds hstrict
  have hwide : (4 * m : ℚ) ≤ low + 2 := by exact_mod_cast hlow
  push_cast at hbounds hstrict
  refine ⟨⟨?_, ?_, fun hodd => ⟨?_, ?_⟩⟩, fun hpower hmore => ?_⟩
  · linarith [hbounds.1]
  · linarith [hbounds.2]
  · linarith [(hstrict hodd).1]
  · linarith [(hstrict hodd).2]
  · have hquarter : (4 * m : ℚ) ≤ low + 1 := by exact_mod_cast hnarrow hpower hmore
    linarith [hbounds.1]

/-- The last of the grids is finer than half a unit of the last bit. -/
theorem gridUnit_lt (hzero : m ≠ 0) (hm : m < 2 ^ 53) (hleast : Binary64.leastExponent ≤ e)
    (hgreatest : e ≤ Binary64.greatestExponent) :
    gridUnit (intervalOf m e) (upperGrid m e - 21) <
      2 * valueUnit (intervalOf m e) (upperGrid m e - 21) := by
  have hbits : m.log2 < 53 := (Nat.log2_lt hzero).2 hm
  obtain ⟨scale, hscale, hvalue, hgrid⟩ := units_spec m e (upperGrid m e - 21)
  have hten : (10 : ℚ) ^ (upperGrid m e - 21) ≤ 2 ^ (e - 2) := by
    simp only [Binary64.leastExponent, Binary64.greatestExponent] at hleast hgreatest
    unfold upperGrid
    exact ten_zpow_le (by omega) (by omega)
  have hquarter : (10 : ℚ) ^ (upperGrid m e - 21) / 2 ^ e ≤ 1 / 4 := by
    rw [div_le_iff₀ (Binary64.two_zpow_pos e)]
    refine hten.trans_eq ?_
    rw [zpow_sub₀ two_ne_zero]
    ring
  rw [← Nat.cast_lt (α := ℚ), Nat.cast_mul, Nat.cast_ofNat, hvalue, hgrid]
  calc scale * (10 ^ (upperGrid m e - 21) / 2 ^ e) ≤ scale * (1 / 4) :=
        mul_le_mul_of_nonneg_left hquarter hscale.le
    _ < 2 * (scale / 4) := by linarith

/-- **The shortest decimal of a number is rounded to this number.** -/
theorem readsBack_decimal (tie : Tie) (hzero : m ≠ 0) (hm : m < 2 ^ 53)
    (hleast : Binary64.leastExponent ≤ e) (hgreatest : e ≤ Binary64.greatestExponent) :
    Binary64.ReadsBack m e ((decimal tie m e).1 * 10 ^ (decimal tie m e).2) :=
  readsBack_of_holds (holds_coarsest (gridUnit_lt hzero hm hleast hgreatest))

/-- The exponents of shortest decimals are not far below zero. -/
theorem le_decimal (tie : Tie) (m : Nat) (hleast : Binary64.leastExponent ≤ e) :
    -400 ≤ (decimal tie m e).2 := by
  have hbound := le_coarsest tie (intervalOf m e) (upperGrid m e) 22
  refine le_trans ?_ hbound
  simp only [Binary64.leastExponent] at hleast
  unfold upperGrid
  omega

end Shortest

namespace DecimalLiteral

open Binary64

/-! ## Literals with the digits -/

/-- The size of a number that is not too large is not too large either. -/
theorem size_le {n : Nat} {t : Int} (hn : n ≠ 0) (h : (n * 10 ^ t : ℚ) < 2 ^ (1024 : Int)) :
    (n.log2 * 3 / 10 + t : Int) ≤ 400 := by
  by_contra hsize
  have hpower : ∀ s : Int, 10 * s ≤ 33 * t → 3 * s ≤ 10 * t → n.log2 + s < 1024 := by
    intro s hpos hneg
    refine (zpow_lt_zpow_iff_right₀ (one_lt_two (α := ℚ))).1 (lt_of_le_of_lt ?_ h)
    rw [zpow_add₀ two_ne_zero]
    exact mul_le_mul (two_zpow_log2_le hn) (le_ten_zpow hpos hneg) (two_zpow_pos s).le
      n.cast_nonneg
  obtain ht | ht := le_total 0 t
  · have := hpower (33 * t / 10) (by omega) (by omega)
    omega
  · have := hpower (10 * t / 3) (by omega) (by omega)
    omega

/-- **A literal that is rounded to a number is read as this number.** -/
theorem nearest_of_readsBack {d : DecimalLiteral} {m : Nat} {e : Int}
    (hranged : (finite d.negative m e).Ranged) (hm : m ≠ 0) (hlast : -400 ≤ d.lastExponent)
    (h : ReadsBack m e (d.digits * 10 ^ d.lastExponent)) :
    d.nearest = finite d.negative m e := by
  have hdigits : d.digits ≠ 0 := by
    intro hzero
    have := h.pos hm
    rw [hzero, Nat.cast_zero, zero_mul] at this
    exact lt_irrefl _ this
  have hless : (d.digits * 10 ^ d.lastExponent : ℚ) < 2 ^ (1024 : Int) := by
    cases hranged with
    | finite _ hbits _ hgreatest _ =>
      refine (h.lt hbits).trans_le (zpow_le_zpow_right₀ one_le_two ?_)
      rw [greatestExponent] at hgreatest
      omega
  have hsize := size_le hdigits hless
  unfold nearest
  dsimp only
  rw [if_neg (not_or.2 ⟨hdigits, by omega⟩), if_neg (by omega)]
  split
  · rename_i hwhole
    refine ofRatio_of_readsBack hranged hm one_pos ?_
    rw [Nat.cast_one, div_one, Nat.cast_mul, Nat.pow_eq, Nat.cast_pow, Nat.cast_ofNat,
      ← zpow_natCast, Int.toNat_of_nonneg hwhole]
    exact h
  · refine ofRatio_of_readsBack hranged hm (Nat.pow_pos (by decide)) ?_
    rw [Nat.pow_eq, Nat.cast_pow, Nat.cast_ofNat, ← zpow_natCast, Int.toNat_of_nonneg (by omega),
      zpow_neg, div_inv_eq_mul]
    exact h

end DecimalLiteral

end TypedRequests
