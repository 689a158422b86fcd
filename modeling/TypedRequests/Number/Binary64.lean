/-!
# Floating-point numbers

Numbers with 53 significant bits and exponents from -1074 to 971, as exact values: a finite number
is `± mantissa · 2 ^ exponent`. Every operation is the exact result rounded to the nearest such
number, a tie going to the even mantissa.

* `Binary64` : the numbers, with infinities and the value that is no number.
* `Binary64.ofRatio` : a quotient of natural numbers, rounded.
* `Binary64.ofNat`, `Binary64.add`, `Binary64.mul`, `Binary64.div` : the operations.
-/

set_option autoImplicit false

namespace TypedRequests

/-- A floating-point number of double precision. -/
inductive Binary64 where
  | finite (negative : Bool) (mantissa : Nat) (exponent : Int)
  | infinite (negative : Bool)
  | nan
deriving DecidableEq, Repr

namespace Binary64

/-- The least exponent. -/
def leastExponent : Int := -1074

/-- The greatest exponent of a finite number. -/
def greatestExponent : Int := 971

/-- The number of significant bits. -/
def precision : Nat := 53

/-- The quotient rounded to the nearest natural number, ties to even. -/
def roundQuotient (num den : Nat) : Nat :=
  let q := num / den
  let r := num % den
  if 2 * r < den then q
  else if den < 2 * r then q + 1
  else q + q % 2

theorem roundQuotient_bounds (num den : Nat) (h : 0 < den) :
    2 * num ≤ (2 * roundQuotient num den + 1) * den ∧
      2 * roundQuotient num den * den ≤ 2 * num + den := by
  have hd := Nat.div_add_mod num den
  have hm := Nat.mod_lt num h
  generalize hq : num / den = q at hd
  generalize hr : num % den = r at hd hm
  have e : roundQuotient num den = if 2 * r < den then q
      else if den < 2 * r then q + 1 else q + q % 2 := by
    simp only [roundQuotient, hq, hr]
  rw [e]
  have hp : den * q = q * den := Nat.mul_comm _ _
  split
  · constructor <;> simp only [Nat.add_mul, Nat.mul_assoc] <;> omega
  · split
    · constructor <;> simp only [Nat.add_mul, Nat.mul_add, Nat.mul_assoc] <;> omega
    · rcases Nat.mod_two_eq_zero_or_one q with k | k <;> rw [k] <;>
        constructor <;> simp only [Nat.add_mul, Nat.mul_add, Nat.mul_assoc] <;> omega

/-- The ratio `num / (den · 2 ^ e)` as a pair. -/
def scaleDown (num den : Nat) (e : Int) : Nat × Nat :=
  if 0 ≤ e then (num, den * Nat.pow 2 e.toNat) else (num * Nat.pow 2 (-e).toNat, den)

/-- The exponent of the leading bit of a positive ratio. -/
def leadingBit (num den : Nat) : Int :=
  let k : Int := num.log2 - den.log2
  let r := scaleDown num den k
  if r.1 < r.2 then k - 1 else k

/-- A rounded mantissa at an exponent; a mantissa of 54 bits is a power of two. -/
def pack (negative : Bool) (mantissa : Nat) (exponent : Int) : Binary64 :=
  let (m, e) := if mantissa = Nat.pow 2 precision then (Nat.pow 2 (precision - 1), exponent + 1)
    else (mantissa, exponent)
  if greatestExponent < e then infinite negative else finite negative m e

/-- The quotient of two natural numbers, rounded. The denominator is positive. -/
def ofRatio (negative : Bool) (num den : Nat) : Binary64 :=
  if num = 0 then finite negative 0 leastExponent
  else
    let e := max leastExponent (leadingBit num den - (precision - 1))
    let r := scaleDown num den e
    pack negative (roundQuotient r.1 r.2) e

/-- A natural number, rounded. -/
def ofNat (n : Nat) : Binary64 :=
  ofRatio false n 1

/-- An integer, rounded. -/
def ofInt (n : Int) : Binary64 :=
  ofRatio (n < 0) n.natAbs 1

/-- The number with the other sign. -/
def neg : Binary64 → Binary64
  | finite negative m e => finite (!negative) m e
  | infinite negative => infinite (!negative)
  | nan => nan

/-- The number is a zero. -/
def isZero : Binary64 → Bool
  | finite _ 0 _ => true
  | _ => false

/-- The number is finite. -/
def isFinite : Binary64 → Bool
  | finite .. => true
  | _ => false

/-- The natural number `m · 2 ^ e` over a power of two. -/
def ratio (m : Nat) (e : Int) : Nat × Nat :=
  if 0 ≤ e then (m * Nat.pow 2 e.toNat, 1) else (m, Nat.pow 2 (-e).toNat)

/-- The product, rounded. -/
def mul : Binary64 → Binary64 → Binary64
  | finite s m e, finite t n f =>
    let r := ratio (m * n) (e + f)
    ofRatio (s != t) r.1 r.2
  | finite s m _, infinite t => if m = 0 then nan else infinite (s != t)
  | infinite s, finite t n _ => if n = 0 then nan else infinite (s != t)
  | infinite s, infinite t => infinite (s != t)
  | nan, _ => nan
  | _, nan => nan

/-- An integer with the given sign and magnitude. -/
def signed (negative : Bool) (n : Nat) : Int :=
  if negative then -(n : Int) else n

/-- The sum, rounded. A sum that is exactly zero is negative only if both numbers are. -/
def add : Binary64 → Binary64 → Binary64
  | finite s m e, finite t n f =>
    let k := min e f
    let total := signed s (m * Nat.pow 2 (e - k).toNat) + signed t (n * Nat.pow 2 (f - k).toNat)
    if total = 0 then finite (s && t) 0 leastExponent
    else
      let r := ratio total.natAbs k
      ofRatio (total < 0) r.1 r.2
  | infinite s, infinite t => if s = t then infinite s else nan
  | infinite s, finite .. => infinite s
  | finite .., infinite t => infinite t
  | nan, _ => nan
  | _, nan => nan

/-- The quotient, rounded. -/
def div : Binary64 → Binary64 → Binary64
  | finite s m e, finite t n f =>
    if n = 0 then (if m = 0 then nan else infinite (s != t))
    else
      let r := ratio m e
      let q := ratio n f
      ofRatio (s != t) (r.1 * q.2) (r.2 * q.1)
  | finite s _ _, infinite t => finite (s != t) 0 leastExponent
  | infinite s, finite t _ _ => infinite (s != t)
  | infinite _, infinite _ => nan
  | nan, _ => nan
  | _, nan => nan

end Binary64

end TypedRequests
