import TypedRequests.Number.Binary64

/-!
# The shortest decimal of a number

Every real number nearer to a finite `Binary64` than to its neighbours reads back as it. The
shortest decimal among those is a point of the coarsest grid of powers of ten that has one; of two
points the nearer is taken.

* `Shortest.Interval` : the numbers that read back, in quarters of a unit of the last bit.
* `Shortest.decimal` : the digits `k` and the exponent `t` of the shortest decimal `k · 10 ^ t`.
-/

set_option autoImplicit false

namespace TypedRequests.Shortest

/-- What decides between two decimals at the same distance. -/
inductive Tie where
  | up
  | even
deriving DecidableEq, Repr

/-- The numbers that round to a given one: from `low` to `high` around `value`, in units of
`num / den`, with the ends when `closed`. -/
structure Interval where
  low : Nat
  value : Nat
  high : Nat
  closed : Bool
  num : Nat
  den : Nat
deriving DecidableEq, Repr

/-- The interval of `mantissa · 2 ^ exponent`. Below a power of two the neighbour is nearer. -/
def intervalOf (mantissa : Nat) (exponent : Int) : Interval :=
  let below :=
    if mantissa = Nat.pow 2 (Binary64.precision - 1) ∧ Binary64.leastExponent < exponent then 1 else 2
  let unit := Binary64.ratio 1 (exponent - 2)
  ⟨4 * mantissa - below, 4 * mantissa, 4 * mantissa + 2, mantissa % 2 = 0, unit.1, unit.2⟩

/-- The decimal `k · 10 ^ t` against the interval: the left sides of the comparisons are
`k * gridUnit`, the right sides multiples of `valueUnit`. -/
def gridUnit (i : Interval) (t : Int) : Nat :=
  Nat.pow 10 t.toNat * i.den

/-- One unit of the interval on the scale of `gridUnit`. -/
def valueUnit (i : Interval) (t : Int) : Nat :=
  Nat.pow 10 (-t).toNat * i.num

/-- The decimal `k · 10 ^ t` lies in the interval. -/
def Interval.Holds (i : Interval) (t : Int) (k : Nat) : Prop :=
  if i.closed then
    i.low * valueUnit i t ≤ k * gridUnit i t ∧ k * gridUnit i t ≤ i.high * valueUnit i t
  else i.low * valueUnit i t < k * gridUnit i t ∧ k * gridUnit i t < i.high * valueUnit i t

instance (i : Interval) (t : Int) (k : Nat) : Decidable (i.Holds t k) := by
  unfold Interval.Holds
  infer_instance

/-- The point of the grid `10 ^ t` in the interval that is nearest to the value. -/
def onGrid (tie : Tie) (i : Interval) (t : Int) : Option Nat :=
  let v := i.value * valueUnit i t
  let g := gridUnit i t
  let k := v / g
  if i.Holds t k ∧ 0 < k then
    if i.Holds t (k + 1) then
      let below := v - k * g
      let above := (k + 1) * g - v
      if below < above then some k
      else if above < below then some (k + 1)
      else
        match tie with
        | .up => some (k + 1)
        | .even => some (if k % 2 = 0 then k else k + 1)
    else some k
  else if i.Holds t (k + 1) then some (k + 1)
  else none

/-- The first grid with a point in the interval, from `10 ^ t` down over `steps` grids. -/
def coarsest (tie : Tie) (i : Interval) (t : Int) : Nat → Nat × Int
  | 0 => (i.value * valueUnit i t / gridUnit i t, t)
  | steps + 1 =>
    match onGrid tie i t with
    | some k => (k, t)
    | none => coarsest tie i (t - 1) steps

/-- A power of ten not below `mantissa · 2 ^ exponent`, from the position of its leading bit. -/
def upperGrid (mantissa : Nat) (exponent : Int) : Int :=
  (mantissa.log2 + exponent + 1) * 30103 / 100000 + 2

/-- The shortest decimal of `mantissa · 2 ^ exponent`, as digits and an exponent of ten. Twenty-two
grids suffice, since seventeen digits always read back. -/
def decimal (tie : Tie) (mantissa : Nat) (exponent : Int) : Nat × Int :=
  coarsest tie (intervalOf mantissa exponent) (upperGrid mantissa exponent) 22

end TypedRequests.Shortest
