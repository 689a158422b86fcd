import TypedRequests.Number.Shortest

/-!
# Writing numbers

A `NumberLayout` says how the shortest decimal of a number is written out.

* `NumberLayout.code` : the layout of numbers in generated code, always positional.
* `NumberLayout.json` : the layout of numbers in JSON text, with exponents for very large and very
  small numbers and with a point in every positional one.
* `NumberLayout.write` : a number written in a layout.
-/

set_option autoImplicit false

namespace TypedRequests

/-- How the shortest decimal of a number is written out. -/
structure NumberLayout where
  /-- What decides between two decimals at the same distance. -/
  tie : Shortest.Tie
  /-- The exponents of the leading digit for which the number is positional. -/
  positional : Int → Bool
  /-- Whole positional numbers end in `.0`. -/
  pointZero : Bool
  /-- The text of the infinities; the argument says which is negative. -/
  infinity : Bool → String
  /-- The text of the value that is no number. -/
  nan : String

namespace NumberLayout

/-- Numbers in generated code are positional and have no needless point. -/
def code : NumberLayout where
  tie := .up
  positional := fun _ => true
  pointZero := false
  infinity := fun negative => if negative then "-inf" else "inf"
  nan := "NaN"

/-- Numbers in JSON text are positional from `0.00001` up to below `10 ^ 16`; there are no texts
for what is not finite, so that `null` stands for it. -/
def json : NumberLayout where
  tie := .even
  positional := fun e => decide (-5 ≤ e) && decide (e ≤ 15)
  pointZero := true
  infinity := fun _ => "null"
  nan := "null"

/-- The decimal digits of a natural number. -/
def digitsOf (n : Nat) : List Char :=
  Nat.toDigits 10 n

/-- `digits · 10 ^ exponent` without exponent. -/
def positionalText (pointZero : Bool) (digits : List Char) (exponent : Int) : List Char :=
  if 0 ≤ exponent then
    digits ++ List.replicate exponent.toNat '0' ++ (if pointZero then ['.', '0'] else [])
  else
    let places := (-exponent).toNat
    if places < digits.length then
      digits.take (digits.length - places) ++ '.' :: digits.drop (digits.length - places)
    else '0' :: '.' :: List.replicate (places - digits.length) '0' ++ digits

/-- `digits · 10 ^ exponent` with one digit before the point. -/
def exponentText (digits : List Char) (exponent : Int) : List Char :=
  let fraction := digits.drop 1
  digits.take 1 ++ (if fraction = [] then [] else '.' :: fraction)
    ++ 'e' :: (if exponent < 0 then '-' else '+') :: digitsOf exponent.natAbs

/-- A positive finite number in a layout. -/
def magnitudeText (l : NumberLayout) (mantissa : Nat) (exponent : Int) : List Char :=
  let (k, t) := if mantissa = 0 then (0, 0) else Shortest.decimal l.tie mantissa exponent
  let digits := digitsOf k
  let leading := t + (digits.length - 1 : Nat)
  if l.positional leading then positionalText l.pointZero digits t
  else exponentText digits leading

/-- The sign of a negative number. -/
def signText (negative : Bool) : List Char :=
  if negative then ['-'] else []

/-- A number in a layout. -/
def write (l : NumberLayout) : Binary64 → String
  | .finite negative m e => String.ofList (signText negative ++ l.magnitudeText m e)
  | .infinite negative => l.infinity negative
  | .nan => l.nan

end NumberLayout

end TypedRequests
