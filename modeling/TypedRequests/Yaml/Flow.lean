import TypedRequests.Number.Decimal
import TypedRequests.Yaml.Place

/-!
# Plain and quoted scalars of YAML

Plain and quoted scalars may go over several lines, which are folded.

* `plain` : a scalar without quotes.
* `quoted` : a scalar in single or double quotes.
-/

set_option autoImplicit false

namespace TypedRequests.YamlReader

/-- A scalar that is being read: its text in reverse order and the white space after it. -/
structure Folding where
  text : List Char
  gap : Gap
deriving Repr

namespace Folding

/-- Nothing is read. -/
def start : Folding :=
  ⟨[], .none⟩

/-- White space that is read. -/
def addGap (f : Folding) (c : Char) : Folding :=
  ⟨f.text, if isBreak c then f.gap.addBreak c else f.gap.addBlank c⟩

/-- The white space becomes a part of the text. -/
def settle (f : Folding) : Folding :=
  ⟨f.gap.text.reverse ++ f.text, .none⟩

/-- One more character of the text. -/
def add (f : Folding) (c : Char) : Folding :=
  ⟨c :: f.settle.text, .none⟩

/-- The text without the white space after it. -/
def finished (f : Folding) : String :=
  String.ofList f.text.reverse

end Folding

/-! ## Plain scalars -/

/-- A sign of a collection inside brackets. -/
def isFlowSign (c : Char) : Bool :=
  c == ',' || c == '[' || c == ']' || c == '\x7b' || c == '\x7d'

/-- A plain scalar cannot go on inside brackets: it has a colon before a sign. -/
def brokenColon (flow : Bool) (c : Char) : List Char → Bool
  | d :: _ => flow && c == ':' && (isFlowSign d || d == '?')
  | [] => false

/-- A plain scalar ends before the character `c`, after white space or inside a word. -/
def plainEnds (flow : Bool) (indent : Nat) (f : Folding) (p : Place) (c : Char)
    (rest : List Char) : Bool :=
  let atWord := f.gap != .none || f.text.isEmpty
  (f.gap.hasBreak && !flow && p.column < indent)
    || (atWord && c == '#')
    || (atWord && p.column == 0 && (atMark '-' (c :: rest) || atMark '.' (c :: rest)))
    || (c == ':' && atBlank rest)
    || (flow && isFlowSign c)

/-- A plain scalar with lines indented by at least `indent`, and what is left after the white space
behind it. Tabs do not count as indentation. -/
def plainFrom (flow : Bool) (indent : Nat) : List Char → Place → Folding →
    Option (Folding × Ahead)
  | [], p, f => some (f, ⟨[], p⟩)
  | c :: cs, p, f =>
    if isBlank c || isBreak c then
      if c == '\t' && f.gap.hasBreak && p.column < indent then none
      else plainFrom flow indent cs (p.after c) (f.addGap c)
    else if brokenColon flow c cs then none
    else if plainEnds flow indent f p c cs then some (f, ⟨c :: cs, p⟩)
    else plainFrom flow indent cs p.next (f.add c)

/-- A plain scalar at a place, and what is left after the white space behind it. -/
def plain (flow : Bool) (indent : Nat) (a : Ahead) : Option (Folding × Ahead) :=
  plainFrom flow indent a.rest a.place .start

/-! ## Quoted scalars -/

/-- The character of an escape with one letter. -/
def escapedLetter? : Char → Option Char
  | '0' => some '\x00'
  | 'a' => some '\x07'
  | 'b' => some '\x08'
  | 't' => some '\t'
  | '\t' => some '\t'
  | 'n' => some '\n'
  | 'v' => some '\x0b'
  | 'f' => some '\x0c'
  | 'r' => some '\r'
  | 'e' => some '\x1b'
  | ' ' => some ' '
  | '"' => some '"'
  | '/' => some '/'
  | '\\' => some '\\'
  | 'N' => some '\u0085'
  | '_' => some '\u00a0'
  | 'L' => some '\u2028'
  | 'P' => some '\u2029'
  | _ => none

/-- The number of hexadecimal digits after the letter of an escape. -/
def escapeDigits? : Char → Option Nat
  | 'x' => some 2
  | 'u' => some 4
  | 'U' => some 8
  | _ => none

/-- The character of an escape, and the number of its characters after the backslash. -/
def escaped? : List Char → Option (Char × Nat)
  | [] => none
  | e :: cs =>
    match escapedLetter? e, escapeDigits? e with
    | some c, _ => some (c, 1)
    | none, some n =>
      let digits := cs.take n
      if digits.length = n ∧ digits.all (fun c => (hexValue? c).isSome) then
        (charOfHex? digits).map fun c => (c, n + 1)
      else none
    | none, none => none

/-- A quoted scalar up to its closing quote, and what is left after it. In single quotes a quote is
written twice; in double quotes there are escapes, and a backslash takes away the end of a line. -/
def quotedFrom (quote : Char) (cs : List Char) (p : Place) (f : Folding) :
    Option (String × Ahead) :=
  match cs with
  | [] => none
  | c :: rest =>
    if p.column = 0 ∧ (atMark '-' (c :: rest) ∨ atMark '.' (c :: rest)) then none
    else if isBlank c || isBreak c then quotedFrom quote rest (p.after c) (f.addGap c)
    else if c = quote then
      match rest with
      | d :: rest' =>
        if quote = '\'' ∧ d = quote then quotedFrom quote rest' (p.skip 2) (f.add c)
        else some (f.settle.finished, ⟨d :: rest', p.next⟩)
      | [] => some (f.settle.finished, ⟨[], p.next⟩)
    else if quote = '"' ∧ c = '\\' then
      match rest with
      | [] => none
      | d :: rest' =>
        if isBreak d then quotedFrom quote rest' p.newLine ⟨f.settle.text, .lines none []⟩
        else
          match escaped? (d :: rest') with
          | some (e, n) => quotedFrom quote ((d :: rest').drop n) (p.skip (n + 1)) (f.add e)
          | none => none
    else quotedFrom quote rest p.next (f.add c)
termination_by cs.length
decreasing_by
  all_goals
    simp only [List.length_cons, List.length_drop]
    omega

/-- A quoted scalar at a place after its opening quote, and what is left. -/
def quoted (quote : Char) (a : Ahead) : Option (String × Ahead) :=
  quotedFrom quote a.rest a.place .start

end TypedRequests.YamlReader
