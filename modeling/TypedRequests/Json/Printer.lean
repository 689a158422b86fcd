import TypedRequests.Json.Basic
import TypedRequests.Number.Layout

/-!
# JSON text

* `Json.compact` : a value on one line without spaces.
* `Json.pretty` : a value with one member or item on each line, indented by two spaces.
-/

set_option autoImplicit false

namespace TypedRequests

namespace Scalar

/-- The lower-case hexadecimal digit of a number below 16. -/
def hexDigit (n : Nat) : Char :=
  Nat.digitChar n

/-- A character inside a JSON string. -/
def stringChar (c : Char) : List Char :=
  match c with
  | '"' => ['\\', '"']
  | '\\' => ['\\', '\\']
  | '\n' => ['\\', 'n']
  | '\r' => ['\\', 'r']
  | '\t' => ['\\', 't']
  | c =>
    if c.toNat = 8 then ['\\', 'b']
    else if c.toNat = 12 then ['\\', 'f']
    else if c.toNat < 32 then
      ['\\', 'u', '0', '0', hexDigit (c.toNat / 16), hexDigit (c.toNat % 16)]
    else [c]

/-- A JSON string. -/
def stringText (s : String) : List Char :=
  '"' :: s.toList.flatMap stringChar ++ ['"']

/-- The text of an integer. -/
def integerText (n : Int) : List Char :=
  (if n < 0 then ['-'] else []) ++ NumberLayout.digitsOf n.natAbs

/-- The text of a scalar. -/
def text : Scalar → List Char
  | null => ['n', 'u', 'l', 'l']
  | bool true => ['t', 'r', 'u', 'e']
  | bool false => ['f', 'a', 'l', 's', 'e']
  | integer n => integerText n
  | real x => if x.isFinite then (NumberLayout.json.write x).toList else ['n', 'u', 'l', 'l']
  | string s => stringText s

end Scalar

namespace Json

/-! ## On one line -/

mutual

/-- The compact text of a value. -/
def compactChars : Json → List Char
  | scalar s => s.text
  | array items => '[' :: compactItems items ++ [']']
  | object members => '\x7b' :: compactMembers members ++ ['\x7d']

/-- The compact texts of items, with commas between. -/
def compactItems : List Json → List Char
  | [] => []
  | [item] => compactChars item
  | item :: next :: items => compactChars item ++ ',' :: compactItems (next :: items)

/-- The compact texts of members, with commas between. -/
def compactMembers : List (String × Json) → List Char
  | [] => []
  | [(name, value)] => Scalar.stringText name ++ ':' :: compactChars value
  | (name, value) :: next :: members =>
    Scalar.stringText name ++ ':' :: compactChars value ++ ',' :: compactMembers (next :: members)

end

/-- The compact text of a value. -/
def compact (v : Json) : String :=
  String.ofList v.compactChars

/-! ## On many lines -/

/-- A new line at a depth of nesting. -/
def newLine (depth : Nat) : List Char :=
  '\n' :: List.replicate (2 * depth) ' '

mutual

/-- The text of a value whose closing bracket is at `depth`. -/
def prettyChars (depth : Nat) : Json → List Char
  | scalar s => s.text
  | array [] => ['[', ']']
  | array (item :: items) => '[' :: prettyItems (depth + 1) (item :: items) ++ newLine depth ++ [']']
  | object [] => ['\x7b', '\x7d']
  | object (m :: members) =>
    '\x7b' :: prettyMembers (depth + 1) (m :: members) ++ newLine depth ++ ['\x7d']

/-- Items, each on a line of its own. -/
def prettyItems (depth : Nat) : List Json → List Char
  | [] => []
  | [item] => newLine depth ++ prettyChars depth item
  | item :: next :: items =>
    newLine depth ++ prettyChars depth item ++ ',' :: prettyItems depth (next :: items)

/-- Members, each on a line of its own. -/
def prettyMembers (depth : Nat) : List (String × Json) → List Char
  | [] => []
  | [(name, value)] =>
    newLine depth ++ Scalar.stringText name ++ ':' :: ' ' :: prettyChars depth value
  | (name, value) :: next :: members =>
    newLine depth ++ Scalar.stringText name ++ ':' :: ' ' :: prettyChars depth value
      ++ ',' :: prettyMembers depth (next :: members)

end

/-- The text of a value on many lines. -/
def pretty (v : Json) : String :=
  String.ofList (v.prettyChars 0)

end Json

end TypedRequests
