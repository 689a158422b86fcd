import TypedRequests.Text.Replace

/-!
# Scanning

A `Scanner` reads a value from the beginning of a text and leaves the rest, or fails. Scanners are
put together in order by the operations of the state monad and tried one after the other by `<|>`.

* `next`, `char`, `literal`, `takeWhile` : scanners of characters.
* `attempt`, `many`, `separated` : options and repetition.
* `whole?` : the value of a text that is read to its end.
-/

set_option autoImplicit false

namespace TypedRequests.Text

/-- Reads a value from the beginning of a text and leaves the rest. -/
abbrev Scanner (α : Type) := StateT (List Char) Option α

namespace Scanner

variable {α β : Type}

/-- One character with a property. -/
def next (p : Char → Bool) : Scanner Char := fun cs =>
  match cs with
  | c :: rest => if p c then some (c, rest) else none
  | [] => none

/-- The given character. -/
def char (c : Char) : Scanner Unit := fun cs =>
  match cs with
  | d :: rest => if d = c then some ((), rest) else none
  | [] => none

/-- The given text. -/
def literal (text : String) : Scanner Unit := fun cs =>
  (stripPrefix? text.toList cs).map fun rest => ((), rest)

/-- The longest beginning whose characters all have a property. -/
def takeWhile (p : Char → Bool) : Scanner (List Char) := fun cs =>
  some (cs.takeWhile p, cs.dropWhile p)

/-- The longest beginning whose characters all have a property, if it is not empty. -/
def takeWhile₁ (p : Char → Bool) : Scanner (List Char) := fun cs =>
  if (cs.takeWhile p).isEmpty then none else some (cs.takeWhile p, cs.dropWhile p)

/-- Exactly `n` characters with a property. -/
def exactly (n : Nat) (p : Char → Bool) : Scanner (List Char) := fun cs =>
  if (cs.take n).length = n ∧ (cs.take n).all p then some (cs.take n, cs.drop n) else none

/-- Nothing is left. -/
def atEnd : Scanner Unit := fun cs =>
  if cs.isEmpty then some ((), cs) else none

/-- What follows is left in place, and a scanner can read it. -/
def ahead (p : Scanner α) : Scanner Unit := fun cs =>
  (p cs).map fun _ => ((), cs)

/-- The text that a scanner reads. -/
def textOf (p : Scanner α) : Scanner (List Char) := fun cs =>
  (p cs).map fun r => (cs.take (cs.length - r.2.length), r.2)

/-- The scanner, or nothing where it fails. -/
def attempt (p : Scanner α) : Scanner (Option α) :=
  some <$> p <|> pure none

/-- The scanner repeated until it fails, at most `n` times. -/
def upTo (p : Scanner α) : Nat → Scanner (List α)
  | 0 => pure []
  | n + 1 => fun cs =>
    match p cs with
    | some (a, rest) => (upTo p n rest).map fun r => (a :: r.1, r.2)
    | none => some ([], cs)

/-- The scanner, which reads at least one character, repeated until it fails. -/
def many (p : Scanner α) : Scanner (List α) := fun cs => upTo p cs.length cs

/-- One or more values with separators between them. -/
def separated (separator : Scanner β) (p : Scanner α) : Scanner (List α) := do
  let a ← p
  let rest ← many (separator *> p)
  return a :: rest

/-- The value of a text that is read to its end. -/
def whole? (p : Scanner α) (cs : List Char) : Option α :=
  match p cs with
  | some (a, []) => some a
  | _ => none

end Scanner

end TypedRequests.Text
