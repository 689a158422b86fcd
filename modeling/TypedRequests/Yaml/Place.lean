/-!
# Places in YAML text

The layout of YAML text matters, so that what is left of a text comes with its place.

* `isBlank`, `isBreak`, `atBlank` : white space inside lines and the ends of lines.
* `Place`, `Ahead` : where a text is, and what is left of it.
* `Gap` : the white space between two words of a scalar, and what it stands for.
-/

set_option autoImplicit false

namespace TypedRequests.YamlReader

/-! ## Characters -/

/-- A blank inside a line. -/
def isBlank (c : Char) : Bool :=
  c == ' ' || c == '\t'

/-- The end of a line, once carriage returns are gone. -/
def isBreak (c : Char) : Bool :=
  c == '\n' || c == '\u2028' || c == '\u2029'

/-- The text ends here, or a blank or the end of a line follows. -/
def atBlank : List Char → Bool
  | [] => true
  | c :: _ => isBlank c || isBreak c

/-- A character that may stand in a text. -/
def isAllowed (c : Char) : Bool :=
  let n := c.toNat
  n == 9 || n == 10 || n == 13 || (0x20 ≤ n && n ≤ 0x7E) || n == 0x85 || (0xA0 ≤ n && n ≤ 0xFFFD)
    || 0x10000 ≤ n

/-- The text with a line feed for each carriage return, with or without a line feed after it, and
for each next-line character. -/
def withLineFeeds : List Char → List Char
  | [] => []
  | '\r' :: '\n' :: cs => '\n' :: withLineFeeds cs
  | '\r' :: cs => '\n' :: withLineFeeds cs
  | '\u0085' :: cs => '\n' :: withLineFeeds cs
  | c :: cs => c :: withLineFeeds cs

/-- The text begins with the mark of a document: three signs that a blank follows. -/
def atMark (sign : Char) : List Char → Bool
  | a :: b :: c :: rest => a == sign && b == sign && c == sign && atBlank rest
  | _ => false

/-! ## Places -/

/-- A place in a text. -/
structure Place where
  index : Nat
  line : Nat
  column : Nat
deriving DecidableEq, Repr

namespace Place

/-- The beginning of a text. -/
def start : Place :=
  ⟨0, 0, 0⟩

/-- The place after a character inside a line. -/
def next (p : Place) : Place :=
  ⟨p.index + 1, p.line, p.column + 1⟩

/-- The place after the end of a line. -/
def newLine (p : Place) : Place :=
  ⟨p.index + 1, p.line + 1, 0⟩

/-- The place after `n` characters inside a line. -/
def skip (p : Place) (n : Nat) : Place :=
  ⟨p.index + n, p.line, p.column + n⟩

/-- The place after a character. -/
def after (p : Place) (c : Char) : Place :=
  if isBreak c then p.newLine else p.next

end Place

/-- What is left of a text, and its place. -/
structure Ahead where
  rest : List Char
  place : Place
deriving DecidableEq, Repr

namespace Ahead

/-- What is left after `n` characters inside a line. -/
def skip (a : Ahead) (n : Nat) : Ahead :=
  ⟨a.rest.drop n, a.place.skip n⟩

/-- What is left after the end of a line, if it is there. -/
def skipBreak (a : Ahead) : Ahead :=
  match a.rest with
  | c :: cs => if isBreak c then ⟨cs, a.place.newLine⟩ else a
  | [] => a

/-- What is left after the characters of the line that have a property. -/
def skipWhile (a : Ahead) (p : Char → Bool) : Ahead :=
  a.skip (a.rest.takeWhile fun c => p c && !isBreak c).length

/-- What is left at the end of the line. -/
def skipLine (a : Ahead) : Ahead :=
  a.skipWhile fun _ => true

end Ahead

/-! ## Gaps -/

/-- White space between two words of a scalar. -/
inductive Gap where
  /-- Blanks inside a line, in reverse order. -/
  | blanks (cs : List Char)
  /-- The first end of a line, unless a backslash takes it away, and the others in reverse
  order. -/
  | lines (first : Option Char) (others : List Char)
deriving DecidableEq, Repr

namespace Gap

/-- No white space. -/
def none : Gap :=
  .blanks []

/-- One more blank. Blanks at the beginning of a line do not count. -/
def addBlank (c : Char) : Gap → Gap
  | .blanks cs => .blanks (c :: cs)
  | .lines first others => .lines first others

/-- One more end of a line. -/
def addBreak (c : Char) : Gap → Gap
  | .blanks _ => .lines (some c) []
  | .lines first others => .lines first (c :: others)

/-- The gap has the end of a line. -/
def hasBreak : Gap → Bool
  | .blanks _ => false
  | .lines _ _ => true

/-- What a gap stands for: a single line feed counts as a space, and of several the first one is
left out. -/
def text : Gap → List Char
  | .blanks cs => cs.reverse
  | .lines (some '\n') [] => [' ']
  | .lines (some '\n') others => others.reverse
  | .lines first others => first.toList ++ others.reverse

end Gap

end TypedRequests.YamlReader
