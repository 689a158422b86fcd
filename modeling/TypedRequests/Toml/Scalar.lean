import TypedRequests.Toml.Basic
import TypedRequests.Toml.Quoted

/-!
# Scalars of TOML

* `number` : integers of 64 bits and floating-point numbers.
* `moment` : dates and times of day.
* `scalar` : every value but arrays and tables.
-/

set_option autoImplicit false

namespace TypedRequests.TomlReader

open Text Text.Scanner

/-! ## Numbers -/

/-- Digits, between which single underscores may stand. -/
def grouped (isDigit : Char → Bool) : Scanner (List Char) :=
  List.flatten <$> separated (char '_') (takeWhile₁ isDigit)

/-- A sign, which may be missing; whether it is a minus sign. -/
def sign : Scanner Bool :=
  (char '-' *> pure true) <|> (char '+' *> pure false) <|> pure false

/-- An integer, if it fits in 64 bits. -/
def word (n : Int) : Scanner Toml :=
  if fitsSigned 64 n then return .integer n else failure

/-- An integer in one of the bases 16, 8 and 2, which has no sign. -/
def based : Scanner Toml := do
  let hexadecimal ← attempt (literal "0x" *> grouped fun c => (hexValue? c).isSome)
  let octal ← attempt (literal "0o" *> grouped fun c => '0' ≤ c && c ≤ '7')
  let binary ← attempt (literal "0b" *> grouped fun c => c == '0' || c == '1')
  match hexadecimal, octal, binary with
  | some ds, _, _ => word (valueOfHex ds)
  | _, some ds, _ => word (valueOfDigits 8 (ds.map digitValue))
  | _, _, some ds => word (valueOfDigits 2 (ds.map digitValue))
  | _, _, _ => failure

/-- Digits that begin with zero only if they are zero. -/
def wholePart : Scanner (List Char) := do
  let ds ← grouped Char.isDigit
  if ds.head? = some '0' ∧ ds ≠ ['0'] then failure else return ds

/-- What follows the sign of an exponent. -/
def exponentPart : Scanner Int := do
  char 'e' <|> char 'E'
  let negative ← sign
  let ds ← grouped Char.isDigit
  let n : Int := valueOfDigits 10 (ds.map digitValue)
  return if negative then -n else n

/-- A number in base ten. A positive number too large for a floating-point number is refused. -/
def decimal : Scanner Toml := do
  let negative ← sign
  let whole ← wholePart
  let fraction ← attempt (char '.' *> grouped Char.isDigit)
  let exponent ← attempt exponentPart
  if fraction.isNone && exponent.isNone then
    let n : Int := valueOfDigits 10 (whole.map digitValue)
    word (if negative then -n else n)
  else
    let literal : DecimalLiteral :=
      ⟨negative, whole.map digitValue, (fraction.getD []).map digitValue, exponent.getD 0⟩
    if literal.nearest = .infinite false then failure else return .real literal.nearest

/-- An infinity, or what is not a number. -/
def special : Scanner Toml := do
  let negative ← sign
  (literal "inf" *> pure (.real (.infinite negative))) <|> (literal "nan" *> pure (.real .nan))

/-- A number. -/
def number : Scanner Toml :=
  based <|> decimal <|> special

/-! ## Moments -/

/-- The number of `n` decimal digits. -/
def digits (n : Nat) : Scanner Nat := do
  let ds ← exactly n Char.isDigit
  return valueOfDigits 10 (ds.map digitValue)

/-- The year has a 29th of February. -/
def isLeap (year : Nat) : Bool :=
  year % 4 == 0 && (year % 100 != 0 || year % 400 == 0)

/-- The number of days of a month. -/
def daysOf (year month : Nat) : Nat :=
  if month = 2 then (if isLeap year then 29 else 28)
  else if month ∈ [4, 6, 9, 11] then 30
  else 31

/-- A day of the calendar. -/
def date : Scanner Unit := do
  let year ← digits 4
  char '-'
  let month ← digits 2
  char '-'
  let day ← digits 2
  if 1 ≤ month ∧ month ≤ 12 ∧ 1 ≤ day ∧ day ≤ daysOf year month then return () else failure

/-- Hours and minutes. -/
def clock : Scanner Unit := do
  let hour ← digits 2
  char ':'
  let minute ← digits 2
  if hour ≤ 23 ∧ minute ≤ 59 then return () else failure

/-- A time of day, which may be in a leap second. -/
def time : Scanner Unit := do
  clock
  char ':'
  let second ← digits 2
  if second ≤ 60 then
    discard (attempt (char '.' *> takeWhile₁ Char.isDigit))
  else failure

/-- The distance from universal time. -/
def offset : Scanner Unit :=
  char 'Z' <|> char 'z' <|> ((char '+' <|> char '-') *> clock)

/-- A date, a time of day or both. -/
def moment : Scanner Toml := do
  let withDate : Scanner Unit := do
    date
    discard (attempt (do
      char 'T' <|> char 't' <|> char ' '
      time
      discard (attempt offset)))
  let text ← textOf (withDate <|> time)
  return .moment (String.ofList text)

/-! ## All of them -/

/-- A truth value. -/
def truth : Scanner Toml :=
  (literal "true" *> pure (.bool true)) <|> (literal "false" *> pure (.bool false))

/-- Every value but arrays and tables. -/
def scalar : Scanner Toml :=
  (.string <$> quoted) <|> truth <|> moment <|> number

end TypedRequests.TomlReader
