import TypedRequests.Number.Binary64

/-!
# Reading numbers

An integer may have to fit in a number of bits.

* `fitsSigned`, `fitsUnsigned` : it does, with or without sign.

A `DecimalLiteral` is a number as it is written. It is read in two ways.

* `DecimalLiteral.nearest` : the nearest `Binary64`.
* `DecimalLiteral.scaled?` : the way of JSON text, where the leading digits that fit in 64 bits are
  scaled by one power of ten at a time, which is quick and may miss the nearest number by a bit.
-/

set_option autoImplicit false

namespace TypedRequests

/-! ## Integers in a number of bits -/

/-- The number of integers in so many bits. -/
def bitPatterns (bits : Nat) : Nat :=
  Nat.pow 2 bits

/-- The integer fits in so many bits, of which one is for the sign. -/
def fitsSigned (bits : Nat) (n : Int) : Bool :=
  -(bitPatterns (bits - 1) : Int) ≤ n && n < bitPatterns (bits - 1)

/-- The integer fits in so many bits without sign. -/
def fitsUnsigned (bits : Nat) (n : Int) : Bool :=
  0 ≤ n && n < bitPatterns bits

/-! ## Numbers as they are written -/

/-- A number as it is written: digits before and after the point and an exponent of ten. -/
structure DecimalLiteral where
  negative : Bool
  whole : List Nat
  fraction : List Nat
  exponent : Int
deriving DecidableEq, Repr

/-- The value of a character as a decimal digit. -/
def digitValue (c : Char) : Nat :=
  c.toNat - '0'.toNat

/-- The value of a character as a hexadecimal digit, if it is one. -/
def hexValue? (c : Char) : Option Nat :=
  if '0' ≤ c ∧ c ≤ '9' then some (c.toNat - '0'.toNat)
  else if 'a' ≤ c ∧ c ≤ 'f' then some (c.toNat - 'a'.toNat + 10)
  else if 'A' ≤ c ∧ c ≤ 'F' then some (c.toNat - 'A'.toNat + 10)
  else none

/-- The natural number with the given digits in a base. -/
def valueOfDigits (base : Nat) (digits : List Nat) : Nat :=
  digits.foldl (fun n d => n * base + d) 0

/-- The natural number written with hexadecimal digits; other characters count as zero. -/
def valueOfHex (cs : List Char) : Nat :=
  valueOfDigits 16 (cs.map fun c => (hexValue? c).getD 0)

/-- The character whose number is written in hexadecimal digits, if there is one. -/
def charOfHex? (cs : List Char) : Option Char :=
  if (valueOfHex cs).isValidChar then some (Char.ofNat (valueOfHex cs)) else none

namespace DecimalLiteral

/-! ## The nearest number -/

/-- All digits, as a natural number. -/
def digits (d : DecimalLiteral) : Nat :=
  valueOfDigits 10 (d.whole ++ d.fraction)

/-- The exponent of the last digit. -/
def lastExponent (d : DecimalLiteral) : Int :=
  d.exponent - d.fraction.length

/-- The nearest number. Exponents so large or small that the result is infinite or zero are not
raised to powers. -/
def nearest (d : DecimalLiteral) : Binary64 :=
  let n := d.digits
  let size : Int := n.log2 * 3 / 10 + d.lastExponent
  if n = 0 ∨ size < -400 then .finite d.negative 0 Binary64.leastExponent
  else if 400 < size then .infinite d.negative
  else if 0 ≤ d.lastExponent then
    Binary64.ofRatio d.negative (n * Nat.pow 10 d.lastExponent.toNat) 1
  else Binary64.ofRatio d.negative n (Nat.pow 10 (-d.lastExponent).toNat)

/-! ## Scaling by powers of ten -/

/-- The first number beyond 64 bits. -/
def wordBound : Nat := bitPatterns 64

/-- Digits read into a word: the number so far and the power of ten it stands for. -/
structure Word where
  value : Nat
  exponent : Int
deriving DecidableEq, Repr

/-- Digits before the point; from the first that does not fit, each only raises the exponent. -/
def readWhole (value : Nat) : List Nat → Word
  | [] => ⟨value, 0⟩
  | d :: ds =>
    if value * 10 + d < wordBound then readWhole (value * 10 + d) ds
    else ⟨value, (d :: ds).length⟩

/-- Digits after the point; from the first that does not fit, they are dropped. -/
def readFraction (w : Word) : List Nat → Word
  | [] => w
  | d :: ds =>
    if w.value * 10 + d < wordBound then readFraction ⟨w.value * 10 + d, w.exponent - 1⟩ ds
    else w

/-- The greatest power of ten in the table. -/
def greatestPower : Nat := 308

/-- A number times a power of ten within the table. -/
def scaleOnce (x : Binary64) (e : Int) : Option Binary64 :=
  let power := Binary64.ofNat (Nat.pow 10 e.natAbs)
  if 0 ≤ e then
    let y := x.mul power
    if y.isFinite then some y else none
  else some (x.div power)

/-- A number times a power of ten below the table, in steps of the greatest power. The number is
zero after a few steps; `steps` bounds them. -/
def scaleDown (x : Binary64) (e : Int) : Nat → Option Binary64
  | 0 => some x
  | steps + 1 =>
    if e.natAbs ≤ greatestPower then scaleOnce x e
    else if x.isZero then some x
    else scaleDown (x.div (Binary64.ofNat (Nat.pow 10 greatestPower))) (e + greatestPower) steps

/-- A word times a power of ten. None when the result is too large. -/
def scale (x : Binary64) (e : Int) : Option Binary64 :=
  if e.natAbs ≤ greatestPower then scaleOnce x e
  else if x.isZero then some x
  else if 0 ≤ e then none
  else scaleDown x e 5

/-- Exponents are words of 32 bits; a literal beyond them is zero or too large. -/
def exponentBound : Nat := bitPatterns 31

/-- The number read by scaling. None when it is too large. -/
def scaled? (d : DecimalLiteral) : Option Binary64 :=
  let w := readFraction (readWhole 0 d.whole) d.fraction
  let result :=
    if d.exponent.natAbs < exponentBound then scale (Binary64.ofNat w.value) (w.exponent + d.exponent)
    else if w.value = 0 ∨ d.exponent < 0 then some (.finite false 0 Binary64.leastExponent)
    else none
  result.map fun x => if d.negative then x.neg else x

end DecimalLiteral

end TypedRequests
