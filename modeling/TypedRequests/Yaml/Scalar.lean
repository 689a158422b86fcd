import TypedRequests.Node
import TypedRequests.Number.Decimal
import TypedRequests.Text.Scan

/-!
# Scalars of YAML

A plain scalar has a text, and its text may mean something else than a string.

* `integer?`, `real?` : the numbers that a text means.
* `plainLeaf` : a plain scalar.
* `taggedLeaf` : a scalar with a tag of the core of YAML.
-/

set_option autoImplicit false

namespace TypedRequests.YamlReader

open Text Text.Scanner

/-! ## Integers -/

/-- Digits in base ten with a zero at their beginning, and more than that zero, are no number. -/
def isPadded (cs : List Char) : Bool :=
  let digits := match cs with
    | '-' :: ds => ds
    | '+' :: ds => ds
    | ds => ds
  1 < digits.length && digits.head? == some '0' && digits.all Char.isDigit

/-- The number of digits in a base, of which there is at least one. -/
def digitsIn? (base : Nat) (cs : List Char) : Option Nat :=
  let digits := cs.mapM fun c => (hexValue? c).filter (· < base)
  match digits with
  | some (d :: ds) => some (valueOfDigits base (d :: ds))
  | _ => none

/-- The number without its sign. -/
def magnitude? : List Char → Option Nat
  | '0' :: 'x' :: cs => digitsIn? 16 cs
  | '0' :: 'o' :: cs => digitsIn? 8 cs
  | '0' :: 'b' :: cs => digitsIn? 2 cs
  | cs => if isPadded cs then none else digitsIn? 10 cs

/-- The integer that a text means, if it fits in 128 bits. -/
def integer? (cs : List Char) : Option Int :=
  match cs with
  | '-' :: ds => (magnitude? ds).bind fun n => if fitsSigned 128 (-n) then some (-n) else none
  | '+' :: ds => (magnitude? ds).bind fun n => if fitsUnsigned 128 n then some n else none
  | ds => (magnitude? ds).bind fun n => if fitsUnsigned 128 n then some n else none

/-- The value of an integer, which can be read if it fits in 64 bits. -/
def integerValue (n : Int) : Option Scalar :=
  if fitsSigned 64 n || fitsUnsigned 64 n then some (.integer n) else none

/-! ## Floating-point numbers -/

/-- Digits with a point before, among or after them. -/
def mantissa : Scanner (List Char × List Char) := do
  let whole ← takeWhile Char.isDigit
  let fraction ← attempt (char '.' *> takeWhile Char.isDigit)
  let fraction := fraction.getD []
  if whole.isEmpty && fraction.isEmpty then failure else return (whole, fraction)

/-- An exponent. -/
def exponent : Scanner Int := do
  char 'e' <|> char 'E'
  let negative ← (char '-' *> pure true) <|> (char '+' *> pure false) <|> pure false
  let digits ← takeWhile₁ Char.isDigit
  let n : Int := valueOfDigits 10 (digits.map digitValue)
  return if negative then -n else n

/-- A number with or without a point and an exponent. -/
def literal : Scanner DecimalLiteral := do
  let negative ← (char '-' *> pure true) <|> (char '+' *> pure false) <|> pure false
  let (whole, fraction) ← mantissa
  let e ← attempt exponent
  return ⟨negative, whole.map digitValue, fraction.map digitValue, e.getD 0⟩

/-- The names of the infinities without sign. -/
def infinities : List String := [".inf", ".Inf", ".INF"]

/-- The names of what is no number. -/
def nans : List String := [".nan", ".NaN", ".NAN"]

/-- The floating-point number that a text means. Numbers that are too large are none. -/
def real? (cs : List Char) : Option Binary64 :=
  let text := String.ofList cs
  let positive := match cs with
    | '+' :: ds => ds
    | ds => ds
  if infinities.contains (String.ofList positive) then some (.infinite false)
  else if infinities.any fun name => text == "-" ++ name then some (.infinite true)
  else if nans.contains text then some .nan
  else
    match whole? literal cs with
    | some d => if d.nearest.isFinite then some d.nearest else none
    | none => none

/-! ## Plain scalars -/

/-- The text means nothing. -/
def isNullText (text : String) : Bool :=
  ["null", "Null", "NULL", "~"].contains text

/-- The truth value that a text means. -/
def bool? (text : String) : Option Bool :=
  if ["true", "True", "TRUE"].contains text then some true
  else if ["false", "False", "FALSE"].contains text then some false
  else none

/-- The value of a plain scalar: one that means nothing else is a string. -/
def plainValue (text : String) : Option Scalar :=
  if text.isEmpty || isNullText text then some .null
  else
    match bool? text with
    | some b => some (.bool b)
    | none =>
      match integer? text.toList with
      | some n => integerValue n
      | none =>
        match (if isPadded text.toList then none else real? text.toList) with
        | some x => some (.real x)
        | none => some (.string text)

/-- A plain scalar. -/
def plainLeaf (text : String) : Leaf :=
  ⟨some text, plainValue text⟩

/-! ## Tags -/

/-- A scalar with a tag that is not of its own making. Its text has to mean what the tag says;
tags that say nothing else make it a string. -/
def taggedLeaf (tag text : String) : Leaf :=
  let value : Option Scalar :=
    match tag with
    | "tag:yaml.org,2002:bool" => (bool? text).map .bool
    | "tag:yaml.org,2002:int" => (integer? text.toList).bind integerValue
    | "tag:yaml.org,2002:float" => (real? text.toList).map .real
    | "tag:yaml.org,2002:null" => if isNullText text then some .null else none
    | _ => some (.string text)
  ⟨some text, value⟩

end TypedRequests.YamlReader
