import TypedRequests.Number.Decimal
import TypedRequests.Yaml.Place

/-!
# Block scalars of YAML

A block scalar is a text of indented lines after a header. A literal one keeps the ends of its
lines; a folded one joins lines that begin without blanks.

* `BlockHeader` : what stands after the sign of a block scalar.
* `blockScalar` : a block scalar with its header.
-/

set_option autoImplicit false

namespace TypedRequests.YamlReader

/-- What becomes of the ends of lines behind a text. -/
inductive Chomping where
  /-- They are all left out. -/
  | strip
  /-- The first one is kept. -/
  | clip
  /-- They are all kept. -/
  | keep
deriving DecidableEq, Repr

/-- The header of a block scalar. -/
structure BlockHeader where
  chomping : Chomping
  /-- How much deeper than its parent the text is, if the header says it. -/
  indentation : Option Nat
deriving DecidableEq, Repr

/-- The sign of a chomping. -/
def chompingOf? : Char → Option Chomping
  | '-' => some .strip
  | '+' => some .keep
  | _ => none

/-- The value of an indentation, which is not zero. -/
def indentationOf? (c : Char) : Option Nat :=
  if '1' ≤ c ∧ c ≤ '9' then some (digitValue c) else none

/-- The header at the beginning of a text, and the number of its characters. -/
def headerOf (cs : List Char) : BlockHeader × Nat :=
  match cs with
  | [] => (⟨.clip, none⟩, 0)
  | c :: rest =>
    let second := rest.head?
    match chompingOf? c, indentationOf? c with
    | some k, _ =>
      match second.bind indentationOf? with
      | some n => (⟨k, some n⟩, 2)
      | none => (⟨k, none⟩, 1)
    | none, some n =>
      match second.bind chompingOf? with
      | some k => (⟨k, some n⟩, 2)
      | none => (⟨.clip, some n⟩, 1)
    | none, none => (⟨.clip, none⟩, 0)

/-- The rest of the line of a header: blanks and a comment. -/
def afterHeader (a : Ahead) : Option Ahead :=
  let a := a.skipWhile isBlank
  match a.rest with
  | [] => some a
  | c :: _ =>
    if c = '#' then some a.skipLine.skipBreak
    else if isBreak c then some a.skipBreak
    else none

/-! ## Lines -/

/-- What stands between two lines with text. -/
structure EmptyLines where
  /-- The ends of the lines, in reverse order. -/
  breaks : List Char
  /-- The greatest column that is reached. -/
  reach : Nat
deriving Repr

/-- Empty lines and the indentation of the next line. Without an `indent` all spaces are
indentation. Tabs are not. -/
def emptyLines (indent : Option Nat) : List Char → Place → EmptyLines →
    Option (EmptyLines × Ahead)
  | [], p, e => some (⟨e.breaks, max e.reach p.column⟩, ⟨[], p⟩)
  | c :: cs, p, e =>
    let inside := match indent with
      | some n => decide (p.column < n)
      | none => true
    if c == ' ' && inside then emptyLines indent cs p.next e
    else if c == '\t' && inside then none
    else
      let e := ⟨e.breaks, max e.reach p.column⟩
      if isBreak c then emptyLines indent cs p.newLine ⟨c :: e.breaks, e.reach⟩
      else some (e, ⟨c :: cs, p⟩)

/-- A block scalar that is being read. -/
structure BlockText where
  /-- The text in reverse order. -/
  text : List Char
  /-- The end of the last line. -/
  lineEnd : List Char
  /-- The ends of the empty lines after it, in reverse order. -/
  breaks : List Char
  /-- The last line begins with a blank. -/
  blankBefore : Bool
deriving Repr

/-- What stands for the end of the last line, before a line that begins with a blank or not. -/
def BlockText.joint (b : BlockText) (folded blank : Bool) : List Char :=
  if folded && b.lineEnd == ['\n'] && !b.blankBefore && !blank then
    if b.breaks.isEmpty then [' '] else []
  else b.lineEnd

/-- The text with its last ends of lines. -/
def BlockText.finished (b : BlockText) (chomping : Chomping) : String :=
  let tail :=
    match chomping with
    | .strip => []
    | .clip => b.lineEnd
    | .keep => b.lineEnd ++ b.breaks.reverse
  String.ofList (b.text.reverse ++ tail)

/-- The lines of a block scalar that are indented by `indent`, at most `n` of them. -/
def blockLines (folded : Bool) (indent : Nat) : (n : Nat) → Ahead → BlockText →
    Option (BlockText × Ahead)
  | 0, a, b => some (b, a)
  | n + 1, a, b =>
    match a.rest with
    | [] => some (b, a)
    | c :: _ =>
      if a.place.column ≠ indent then some (b, a)
      else
        let blank := isBlank c
        let line := a.rest.takeWhile fun c => !isBreak c
        let ended := a.skip line.length
        let text := line.reverse ++ b.breaks ++ (b.joint folded blank).reverse ++ b.text
        let next := ended.skipBreak
        match emptyLines (some indent) next.rest next.place ⟨[], 0⟩ with
        | some (e, a) =>
          blockLines folded indent n a ⟨text, (ended.rest.take 1), e.breaks, blank⟩
        | none => none

/-- A block scalar after its sign, inside a collection whose column is below `parent`, and what is
left after it. -/
def blockScalar (folded : Bool) (parent : Nat) (a : Ahead) : Option (String × Ahead) :=
  let (header, length) := headerOf a.rest
  match afterHeader (a.skip length) with
  | none => none
  | some a =>
    let given := header.indentation.map fun n => (parent - 1) + n
    match emptyLines given a.rest a.place ⟨[], 0⟩ with
    | none => none
    | some (e, a) =>
      let indent := given.getD (max e.reach (max parent 1))
      match blockLines folded indent a.rest.length a ⟨[], [], e.breaks, false⟩ with
      | some (b, a) => some (b.finished header.chomping, a)
      | none => none

end TypedRequests.YamlReader
