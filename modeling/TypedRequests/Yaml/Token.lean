import TypedRequests.Yaml.Block
import TypedRequests.Yaml.Flow

/-!
# Tokens of YAML text

The layout of a text becomes explicit in its tokens: they say where collections made of indented
lines begin and end, and which nodes are keys. That a node is a key is known only at the colon after
it, so that each place where a key may begin is remembered as a `Candidate`.

* `YamlToken` : signs, scalars and the marks of layout.
* `Layout` : the open collections, the candidates and the tokens so far.
* `Layout.token` : the next token.
* `YamlToken.scan` : the tokens of a text.

Directives are left out. A text with one, which is a line that begins with a percent sign before a
document, has no tokens, and neither has a text with a tag whose handle a directive would declare.
-/

set_option autoImplicit false

namespace TypedRequests

/-- A token of YAML text. -/
inductive YamlToken where
  | documentStart
  | documentEnd
  /-- A list or record of indented lines begins or ends. -/
  | blockListStart
  | blockRecordStart
  | blockEnd
  /-- An item of a list of indented lines follows. -/
  | blockItem
  | flowListStart
  | flowListEnd
  | flowRecordStart
  | flowRecordEnd
  | comma
  | key
  | value
  | anchor (name : String)
  | alias (name : String)
  | tag (name : String)
  /-- A scalar; whether it is plain decides what it may mean. -/
  | scalar (text : String) (plain : Bool)
deriving DecidableEq, Repr

namespace YamlReader

/-! ## Layout -/

/-- A place where a key may begin. -/
structure Candidate where
  /-- The number of tokens before it. -/
  before : Nat
  place : Place
  /-- Nothing but a key can stand here. -/
  required : Bool
deriving DecidableEq, Repr

/-- What is known between two tokens. -/
structure Layout where
  ahead : Ahead
  /-- The columns of the open collections of indented lines, innermost first. -/
  indents : List Nat
  /-- The last candidate inside each open pair of brackets, innermost first. -/
  inner : List (Option Candidate)
  /-- The last candidate outside of brackets. -/
  outer : Option Candidate
  keyAllowed : Bool
  /-- The tokens in reverse order. -/
  tokens : List YamlToken
deriving Repr

namespace Layout

/-- The layout at the beginning of a text. -/
def start (cs : List Char) : Layout :=
  ⟨⟨cs, .start⟩, [], [], none, true, []⟩

/-- The place is inside of brackets. -/
def inFlow (l : Layout) : Bool :=
  !l.inner.isEmpty

/-- The least column inside of the innermost collection of indented lines. -/
def depth (l : Layout) : Nat :=
  match l.indents with
  | n :: _ => n + 1
  | [] => 0

/-- The column of the place. -/
def column (l : Layout) : Nat :=
  l.ahead.place.column

/-- One more token. -/
def emit (l : Layout) (t : YamlToken) : Layout :=
  { l with tokens := t :: l.tokens }

/-- Tokens, given in order, put in after the first `before` tokens. -/
def insert (l : Layout) (before : Nat) (ts : List YamlToken) : Layout :=
  let n := l.tokens.length - before
  { l with tokens := l.tokens.take n ++ ts.reverse ++ l.tokens.drop n }

/-- What is left after `n` characters. -/
def skip (l : Layout) (n : Nat) : Layout :=
  { l with ahead := l.ahead.skip n }

/-! ## Candidates -/

/-- The last candidate at the present level. -/
def candidate (l : Layout) : Option Candidate :=
  match l.inner with
  | c :: _ => c
  | [] => l.outer

/-- The layout with another candidate at the present level. -/
def setCandidate (l : Layout) (c : Option Candidate) : Layout :=
  match l.inner with
  | _ :: inner => { l with inner := c :: inner }
  | [] => { l with outer := c }

/-- The candidate is too far back: a key is on one line and has at most 1024 characters. -/
def isStale (l : Layout) (c : Candidate) : Bool :=
  c.place.line < l.ahead.place.line || c.place.index + 1024 < l.ahead.place.index

/-- A candidate that is too far back is dropped; one where a key has to stand is an error. -/
def dropStaleCandidate (l : Layout) (c : Option Candidate) : Option (Option Candidate) :=
  match c with
  | some c => if l.isStale c then (if c.required then none else some none) else some (some c)
  | none => some none

/-- Candidates that are too far back are dropped. -/
def dropStale (l : Layout) : Option Layout := do
  let inner ← l.inner.mapM l.dropStaleCandidate
  let outer ← l.dropStaleCandidate l.outer
  return { l with inner, outer }

/-- The candidate at the present level is dropped. -/
def dropCandidate (l : Layout) : Option Layout :=
  match l.candidate with
  | some c => if c.required then none else some (l.setCandidate none)
  | none => some l

/-- If a key is allowed here, this place becomes the candidate. -/
def saveCandidate (l : Layout) : Option Layout :=
  if l.keyAllowed then
    let required := !l.inFlow && l.indents.head? == some l.column
    (l.dropCandidate).map fun l =>
      l.setCandidate (some ⟨l.tokens.length, l.ahead.place, required⟩)
  else some l

/-! ## Indentation -/

/-- The collections of indented lines whose column is beyond `column` end. -/
def closeBeyond (column : Nat) : List Nat → List YamlToken → List Nat × List YamlToken
  | n :: ns, ts => if column < n then closeBeyond column ns (.blockEnd :: ts) else (n :: ns, ts)
  | [], ts => ([], ts)

/-- Outside of brackets, collections beyond the present column end. -/
def unroll (l : Layout) : Layout :=
  if l.inFlow then l
  else
    let (indents, tokens) := closeBeyond l.column l.indents l.tokens
    { l with indents, tokens }

/-- All collections of indented lines end. -/
def unrollAll (l : Layout) : Layout :=
  if l.inFlow then l
  else { l with
    indents := []
    tokens := List.replicate l.indents.length .blockEnd ++ l.tokens }

/-- Outside of brackets, a collection begins at a column beyond that of the open ones. -/
def roll (l : Layout) (column before : Nat) (t : YamlToken) : Layout :=
  if !l.inFlow && l.depth ≤ column then
    { l.insert before [t] with indents := column :: l.indents }
  else l

/-! ## White space -/

/-- What is left after white space and comments, and whether a key may follow. A tab is white space
where no key can begin. -/
def skipSpace (flow : Bool) : List Char → Place → (keyAllowed inComment : Bool) → Ahead × Bool
  | [], p, k, _ => (⟨[], p⟩, k)
  | c :: cs, p, k, inComment =>
    if isBreak c then skipSpace flow cs p.newLine (k || !flow) false
    else if inComment then skipSpace flow cs p.next k true
    else if c == ' ' || (c == '\t' && (flow || !k)) then skipSpace flow cs p.next k false
    else if c == '#' then skipSpace flow cs p.next k true
    else (⟨c :: cs, p⟩, k)

/-- The layout before the next token. -/
def advance (l : Layout) : Option Layout := do
  let (ahead, keyAllowed) := skipSpace l.inFlow l.ahead.rest l.ahead.place l.keyAllowed false
  let l ← ({ l with ahead, keyAllowed }).dropStale
  return l.unroll

/-! ## Signs -/

/-- The mark of a document, which ends all collections of indented lines. -/
def documentMark (l : Layout) (t : YamlToken) : Option Layout := do
  let l ← l.unrollAll.dropCandidate
  return ({ l with keyAllowed := false }.emit t).skip 3

/-- An opening bracket. -/
def openFlow (l : Layout) (t : YamlToken) : Option Layout := do
  let l ← l.saveCandidate
  return ({ l with inner := none :: l.inner, keyAllowed := true }.emit t).skip 1

/-- A closing bracket. -/
def closeFlow (l : Layout) (t : YamlToken) : Option Layout := do
  let l ← l.dropCandidate
  return ({ l with inner := l.inner.drop 1, keyAllowed := false }.emit t).skip 1

/-- A comma. -/
def comma (l : Layout) : Option Layout := do
  let l ← l.dropCandidate
  return ({ l with keyAllowed := true }.emit .comma).skip 1

/-- A dash before an item. -/
def item (l : Layout) : Option Layout :=
  if !l.inFlow && !l.keyAllowed then none
  else do
    let l ← (l.roll l.column l.tokens.length .blockListStart).dropCandidate
    return ({ l with keyAllowed := true }.emit .blockItem).skip 1

/-- A question mark before a key. -/
def explicitKey (l : Layout) : Option Layout :=
  if !l.inFlow && !l.keyAllowed then none
  else do
    let l ← (l.roll l.column l.tokens.length .blockRecordStart).dropCandidate
    return ({ l with keyAllowed := !l.inFlow }.emit .key).skip 1

/-- A colon: the candidate becomes a key. Without a candidate the key is empty or has a question
mark. -/
def colon (l : Layout) : Option Layout :=
  match l.candidate with
  | some c =>
    let l := (l.insert c.before [.key]).roll c.place.column c.before .blockRecordStart
    some (({ l.setCandidate none with keyAllowed := false }.emit .value).skip 1)
  | none =>
    if !l.inFlow && !l.keyAllowed then none
    else
      let l := l.roll l.column l.tokens.length .blockRecordStart
      some (({ l with keyAllowed := !l.inFlow }.emit .value).skip 1)

/-! ## Names -/

/-- A character of the name of an anchor. -/
def isNameChar (c : Char) : Bool :=
  ('a' ≤ c && c ≤ 'z') || ('A' ≤ c && c ≤ 'Z') || c.isDigit || c == '_' || c == '-'

/-- A sign that may follow the name of an anchor. -/
def endsName (c : Char) : Bool :=
  c == '?' || c == ':' || c == ',' || c == ']' || c == '\x7d' || c == '%' || c == '@' || c == '\x60'

/-- An anchor or alias with its name. -/
def named (l : Layout) (t : String → YamlToken) : Option Layout := do
  let l ← l.saveCandidate
  let name := (l.ahead.rest.drop 1).takeWhile isNameChar
  let after := l.ahead.rest.drop (name.length + 1)
  if name.isEmpty then none
  else if atBlank after || (after.head?.map endsName) == some true then
    some (({ l with keyAllowed := false }.emit (t (String.ofList name))).skip (name.length + 1))
  else none

/-- A character of a tag. -/
def isTagChar (c : Char) : Bool :=
  isNameChar c || [';', '/', '?', ':', '@', '&', '=', '+', '$', '.', '!', '~', '*', '\'', '(',
    ')'].contains c

/-- What the tags of the core of YAML begin with. -/
def coreTag : List Char :=
  "tag:yaml.org,2002:".toList

/-- The full name of a tag, and the number of its characters. -/
def tagName? : List Char → Option (List Char × Nat)
  | '!' :: '<' :: cs =>
    let name := cs.takeWhile fun c => isTagChar c || c == ',' || c == '[' || c == ']'
    if name.isEmpty || (cs.drop name.length).head? != some '>' then none
    else some (name, name.length + 3)
  | '!' :: '!' :: cs =>
    let name := cs.takeWhile isTagChar
    if name.isEmpty then none else some (coreTag ++ name, name.length + 2)
  | '!' :: cs =>
    let name := cs.takeWhile isTagChar
    if (cs.takeWhile isNameChar).length < (name.takeWhile (· != '!')).length ∨ !name.contains '!'
    then some ('!' :: name, name.length + 1)
    else none
  | _ => none

/-- A tag. -/
def tag (l : Layout) : Option Layout := do
  let l ← l.saveCandidate
  let (name, n) ← tagName? l.ahead.rest
  let after := l.ahead.rest.drop n
  if atBlank after || (l.inFlow && after.head? == some ',') then
    some (({ l with keyAllowed := false }.emit (.tag (String.ofList name))).skip n)
  else none

/-! ## Scalars -/

/-- A block scalar. -/
def block (l : Layout) (folded : Bool) : Option Layout := do
  let l ← l.dropCandidate
  let (text, ahead) ← blockScalar folded l.depth (l.ahead.skip 1)
  return { l with ahead, keyAllowed := true }.emit (.scalar text false)

/-- A quoted scalar. -/
def inQuotes (l : Layout) (quote : Char) : Option Layout := do
  let l ← l.saveCandidate
  let (text, ahead) ← quoted quote (l.ahead.skip 1)
  return { l with ahead, keyAllowed := false }.emit (.scalar text false)

/-- A plain scalar. A key may follow it on another line. -/
def withoutQuotes (l : Layout) : Option Layout := do
  let l ← l.saveCandidate
  let (f, ahead) ← plain l.inFlow l.depth l.ahead
  return { l with ahead, keyAllowed := f.gap.hasBreak }.emit (.scalar f.finished true)

/-- A character with which a plain scalar cannot begin, unless a sign that needs a blank has
none. -/
def isSign (c : Char) : Bool :=
  ['-', '?', ':', ',', '[', ']', '\x7b', '\x7d', '#', '&', '*', '!', '|', '>', '\'', '"', '%', '@',
    '\x60'].contains c

/-- The token that begins with the character `c`, with `rest` after it. -/
def token (l : Layout) (c : Char) (rest : List Char) : Option Layout :=
  if l.column = 0 ∧ atMark '-' (c :: rest) then l.documentMark .documentStart
  else if l.column = 0 ∧ atMark '.' (c :: rest) then l.documentMark .documentEnd
  else
    match c with
    | '[' => l.openFlow .flowListStart
    | '\x7b' => l.openFlow .flowRecordStart
    | ']' => l.closeFlow .flowListEnd
    | '\x7d' => l.closeFlow .flowRecordEnd
    | ',' => l.comma
    | '*' => l.named .alias
    | '&' => l.named .anchor
    | '!' => l.tag
    | '\'' => l.inQuotes '\''
    | '"' => l.inQuotes '"'
    | c =>
      if c == '-' && atBlank rest then l.item
      else if c == '?' && (l.inFlow || atBlank rest) then l.explicitKey
      else if c == ':' && (l.inFlow || atBlank rest) then l.colon
      else if c == '|' && !l.inFlow then l.block false
      else if c == '>' && !l.inFlow then l.block true
      else if c == '\t' then none
      else if !isSign c || c == '-' || c == '?' || c == ':' then l.withoutQuotes
      else none

/-- The layout at the end of a text. -/
def finish (l : Layout) : Option (List YamlToken) := do
  let l ← l.unrollAll.dropCandidate
  return l.tokens.reverse

/-- The tokens of a text that has at most `n` tokens. -/
def scan : (n : Nat) → Layout → Option (List YamlToken)
  | 0, _ => none
  | n + 1, l => do
    let l ← l.advance
    match l.ahead.rest with
    | [] => l.finish
    | c :: rest => scan n (← l.token c rest)

end Layout

end YamlReader

open YamlReader in
/-- The tokens of a text, which has at most as many tokens as characters. A mark for the order of
bytes may come first. -/
def YamlToken.scan (text : String) : Option (List YamlToken) :=
  let cs := text.toList
  let cs := if cs.head? = some '\uFEFF' then cs.drop 1 else cs
  if cs.all isAllowed then
    let cs := withLineFeeds cs
    Layout.scan (cs.length + 1) (.start cs)
  else none

end TypedRequests
