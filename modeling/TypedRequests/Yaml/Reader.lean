import TypedRequests.Yaml.Scalar
import TypedRequests.Yaml.Token

/-!
# Reading YAML text

* `YamlReader.node` : the node that some tokens are.
* `Node.ofYamlText?` : the data of a YAML text with one document.

An alias stands for the node with its anchor. Inside of that node it cannot be read.

Two limits are left out with which other readers guard themselves: how deep collections may be
nested in what is asked for, aliases followed (128), and how often aliases may be followed (a
hundred times for each node of the text). Data beyond them is read here like other data.
-/

set_option autoImplicit false

namespace TypedRequests

namespace YamlReader

/-- The tokens that are left, and the nodes with anchors. -/
structure Reading where
  tokens : List YamlToken
  anchors : List (String × Node)
deriving Repr

/-- Reads from tokens. -/
abbrev Reader (α : Type) := StateT Reading Option α

/-! ## Tokens -/

/-- The next token, which is left in place. -/
def peek : Reader (Option YamlToken) := fun r => some (r.tokens.head?, r)

/-- The next token is passed over. -/
def pass : Reader Unit := fun r => some ((), { r with tokens := r.tokens.drop 1 })

/-- The next token is one of those given. -/
def nextIn (ts : List YamlToken) : Reader Bool := do
  match ← peek with
  | some t => return ts.contains t
  | none => return false

/-- The given token is passed over if it is the next one. -/
def passIf (t : YamlToken) : Reader Bool := do
  if (← peek) == some t then
    pass
    return true
  else return false

/-! ## Nodes -/

/-- Nothing at all. -/
def blank : Node :=
  .leaf (plainLeaf "")

/-- The node with an anchor. -/
def aliased (name : String) : Reader Node := fun r =>
  (r.anchors.lookup name).map fun n => (n, r)

/-- An anchor stands for a node from now on. -/
def define (name : String) (n : Node) : Reader Unit := fun r =>
  some ((), { r with anchors := (name, n) :: r.anchors })

/-- The anchor and the tag before a node, in any order. -/
def properties : Reader (Option String × Option String) := do
  match ← peek with
  | some (.anchor a) =>
    pass
    match ← peek with
    | some (.tag t) =>
      pass
      return (some a, some t)
    | _ => return (some a, none)
  | some (.tag t) =>
    pass
    match ← peek with
    | some (.anchor a) =>
      pass
      return (some a, some t)
    | _ => return (none, some t)
  | _ => return (none, none)

/-- The tag is neither of the core of YAML nor the empty one. -/
def isOwnTag (tag : String) : Bool :=
  tag != "!" && tag.toList.head? == some '!'

/-- A scalar with a tag. -/
def scalarNode (tag : Option String) (text : String) (plain : Bool) : Node :=
  let untagged := if plain then plainLeaf text else .string text
  match tag with
  | none => .leaf untagged
  | some t =>
    if t = "!" then .leaf untagged
    else if isOwnTag t then .tagged (.leaf untagged)
    else .leaf (taggedLeaf t text)

/-- A collection with a tag. -/
def withTag (tag : Option String) (n : Node) : Node :=
  match tag with
  | some t => if t.toList.head? == some '!' then .tagged n else n
  | none => n

/-- A node as a key, which has to be a scalar. -/
def keyOf : Node → Leaf
  | .leaf l => l
  | .tagged n => keyOf n
  | _ => .unreadable

mutual

/-- A node. Outside of brackets it may be a collection of indented lines; as a part of a record it
may be a list whose dashes are not indented. -/
def node : (fuel : Nat) → (inFlow dashes : Bool) → Reader Node
  | 0, _, _ => failure
  | fuel + 1, inFlow, dashes => do
    match ← peek with
    | some (.alias name) =>
      pass
      aliased name
    | _ =>
      let (anchor, tag) ← properties
      if let some a := anchor then
        define a .unreadable
      let n ← content fuel inFlow dashes (anchor.isSome || tag.isSome) tag
      if let some a := anchor then
        define a n
      return n

/-- A node without its anchor. After an anchor or a tag it may be nothing at all. -/
def content : (fuel : Nat) → (inFlow dashes mayBeBlank : Bool) → (tag : Option String) →
    Reader Node
  | 0, _, _, _, _ => failure
  | fuel + 1, inFlow, dashes, mayBeBlank, tag => do
    match ← peek, inFlow with
    | some (.scalar text plain), _ =>
      pass
      return scalarNode tag text plain
    | some .flowListStart, _ =>
      pass
      return withTag tag (.list (← flowItems fuel true))
    | some .flowRecordStart, _ =>
      pass
      return withTag tag (.record (← flowEntries fuel true))
    | some .blockListStart, false =>
      pass
      return withTag tag (.list (← blockItems fuel))
    | some .blockRecordStart, false =>
      pass
      return withTag tag (.record (← blockEntries fuel))
    | t, _ =>
      if dashes && t == some .blockItem then
        return withTag tag (.list (← dashItems fuel))
      else if mayBeBlank then return scalarNode tag "" true
      else failure

/-- The items of a list of indented lines, up to its end. -/
def blockItems : (fuel : Nat) → Reader (List Node)
  | 0 => failure
  | fuel + 1 => do
    if ← passIf .blockEnd then return []
    else if ← passIf .blockItem then
      let item ←
        if ← nextIn [.blockItem, .blockEnd] then pure blank else node fuel false false
      return item :: (← blockItems fuel)
    else failure

/-- The items of a list whose dashes are not indented. -/
def dashItems : (fuel : Nat) → Reader (List Node)
  | 0 => failure
  | fuel + 1 => do
    if ← passIf .blockItem then
      let item ←
        if ← nextIn [.blockItem, .key, .value, .blockEnd] then pure blank
        else node fuel false false
      return item :: (← dashItems fuel)
    else return []

/-- The entries of a record of indented lines, up to its end. -/
def blockEntries : (fuel : Nat) → Reader (List (Leaf × Node))
  | 0 => failure
  | fuel + 1 => do
    if ← passIf .blockEnd then return []
    else if ← passIf .key then
      let key ←
        if ← nextIn [.key, .value, .blockEnd] then pure blank else node fuel false true
      let value ←
        if ← passIf .value then
          if ← nextIn [.key, .value, .blockEnd] then pure blank else node fuel false true
        else pure blank
      return (keyOf key, value) :: (← blockEntries fuel)
    else failure

/-- The items of a list in brackets, up to its end. An item with a colon is a record with one
entry. -/
def flowItems : (fuel : Nat) → (first : Bool) → Reader (List Node)
  | 0, _ => failure
  | fuel + 1, first => do
    if ← passIf .flowListEnd then return []
    else
      let parted ← if first then pure true else passIf .comma
      if !parted then failure
      else if ← passIf .flowListEnd then return []
      else if ← passIf .key then
        let key ←
          if ← nextIn [.value, .comma, .flowListEnd] then pure blank else node fuel true false
        let value ←
          if ← passIf .value then
            if ← nextIn [.comma, .flowListEnd] then pure blank else node fuel true false
          else pure blank
        return .record [(keyOf key, value)] :: (← flowItems fuel false)
      else
        let item ← node fuel true false
        return item :: (← flowItems fuel false)

/-- The entries of a record in braces, up to its end. A key may stand alone. -/
def flowEntries : (fuel : Nat) → (first : Bool) → Reader (List (Leaf × Node))
  | 0, _ => failure
  | fuel + 1, first => do
    if ← passIf .flowRecordEnd then return []
    else
      let parted ← if first then pure true else passIf .comma
      if !parted then failure
      else if ← passIf .flowRecordEnd then return []
      else if ← passIf .key then
        let key ←
          if ← nextIn [.value, .comma, .flowRecordEnd] then pure blank else node fuel true false
        let value ←
          if ← passIf .value then
            if ← nextIn [.comma, .flowRecordEnd] then pure blank else node fuel true false
          else pure blank
        return (keyOf key, value) :: (← flowEntries fuel false)
      else
        let key ← node fuel true false
        return (keyOf key, blank) :: (← flowEntries fuel false)

end

/-! ## Documents -/

/-- The only document of a text; it may be empty and may have marks at its beginning and end. -/
def document (fuel : Nat) : Reader Node := do
  let marked ← passIf .documentStart
  let n ←
    match ← peek with
    | none => pure blank
    | some .documentEnd => if marked then pure blank else failure
    | some .documentStart => pure blank
    | some _ => node fuel false false
  endMarks fuel
  match ← peek with
  | none => return n
  | some _ => failure
where
  /-- The marks at the end of a document. -/
  endMarks : Nat → Reader Unit
    | 0 => pure ()
    | n + 1 => do
      if ← passIf .documentEnd then endMarks n

end YamlReader

open YamlReader in
/-- The data of a YAML text with one document, if it is one. Each step of reading a token is one of
at most three for this token. -/
def Node.ofYamlText? (text : String) : Option Node := do
  let tokens ← YamlToken.scan text
  let fuel := 3 * tokens.length + 3
  match (document fuel).run ⟨tokens, []⟩ with
  | some (n, _) => some n
  | none => none

end TypedRequests
