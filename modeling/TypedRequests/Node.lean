import TypedRequests.Json.Basic

/-!
# Data as it is written

A `Node` is what a reader sees of a JSON or YAML text before it is known what each part should be.
It keeps what a JSON value forgets: repeated keys, the text of scalars, and the places that cannot
be read at all. A part that nobody asks for may be unreadable.

* `Leaf` : a scalar with its text and its value.
* `Node` : scalars, lists and records.
* `Node.toJson?` : the JSON value of a node, if all of it is readable. Its keys are the texts of
  keys, also of those that mean something else, such as `200` in YAML.
* `Node.ofJson` : a JSON value as a node.
-/

set_option autoImplicit false

namespace TypedRequests

/-- A scalar. It may have a text, which can stand where a string is wanted, and a value, which is
what it means by itself. One without both cannot be read. -/
structure Leaf where
  text : Option String
  value : Option Scalar
deriving DecidableEq, Repr

/-- A scalar that cannot be read. -/
def Leaf.unreadable : Leaf :=
  ⟨none, none⟩

/-- A scalar that is a string. -/
def Leaf.string (s : String) : Leaf :=
  ⟨some s, some (.string s)⟩

/-- A scalar of which only strings have a text. -/
def Leaf.ofScalar : Scalar → Leaf
  | .string s => .string s
  | s => ⟨none, some s⟩

/-- Data as it is written. -/
inductive Node where
  | leaf (l : Leaf)
  | list (items : List Node)
  | record (entries : List (Leaf × Node))
  /-- A node with a type of its own, which a JSON value cannot express. -/
  | tagged (node : Node)
deriving Repr, Inhabited

/-- The scalar, or `null` in the place of a number that is not finite. -/
def Scalar.finite : Scalar → Scalar
  | .real x => if x.isFinite then .real x else .null
  | s => s

namespace Node

/-- A node that cannot be read. -/
def unreadable : Node :=
  leaf .unreadable

/-! ## JSON values -/

mutual

/-- The JSON value of a node. Of the values of a repeated key the last one counts. -/
def toJson? : Node → Option Json
  | leaf l => l.value.map fun s => .scalar s.finite
  | list items => (itemsToJson? items).map .array
  | record entries => (entriesToJson? entries).map fun es => .object (Entries.ofPairs es)
  | tagged _ => none

/-- The JSON values of nodes. -/
def itemsToJson? : List Node → Option (List Json)
  | [] => some []
  | n :: ns =>
    match toJson? n, itemsToJson? ns with
    | some v, some vs => some (v :: vs)
    | _, _ => none

/-- The JSON values of entries, whose keys are texts. -/
def entriesToJson? : List (Leaf × Node) → Option (List (String × Json))
  | [] => some []
  | (k, n) :: es =>
    match k.text, toJson? n, entriesToJson? es with
    | some name, some v, some vs => some ((name, v) :: vs)
    | _, _, _ => none

end

mutual

/-- A JSON value as a node. -/
def ofJson : Json → Node
  | .scalar s => leaf (.ofScalar s)
  | .array items => list (itemsOfJson items)
  | .object members => record (entriesOfJson members)

/-- JSON values as nodes. -/
def itemsOfJson : List Json → List Node
  | [] => []
  | v :: vs => ofJson v :: itemsOfJson vs

/-- The members of an object as entries. -/
def entriesOfJson : List (String × Json) → List (Leaf × Node)
  | [] => []
  | (name, v) :: vs => (.string name, ofJson v) :: entriesOfJson vs

end

end Node

end TypedRequests
