import TypedRequests.Node
import TypedRequests.Number.Layout
import TypedRequests.OpenApi.Method
import TypedRequests.Text.Printable

/-!
# Reading typed data

Typed data is read from a `Node` in the order in which it is written; the first thing that is wrong
ends the reading.

* `ReadError` : what can be wrong, and `ReadError.message` its wording.
* `Rules` : where the notations differ, with `Rules.jsonText`, `Rules.jsonValue` and `Rules.yaml`.
* `readText`, `readBool`, `readOption`, `readList`, `readMap` : the parts of typed data.
* `RecordForm`, `readRecord` : records with named fields.
-/

set_option autoImplicit false

namespace TypedRequests

/-! ## Results -/

section Results

variable {ε ε' α β : Type} {x : Except ε α} {f : α → Except ε β}

theorem bind_eq_ok {b : β} : (x >>= f) = .ok b ↔ ∃ a, x = .ok a ∧ f a = .ok b := by
  cases x <;> simp [bind, Except.bind]

theorem map_eq_ok {g : α → β} {b : β} : x.map g = .ok b ↔ ∃ a, x = .ok a ∧ g a = b := by
  cases x <;> simp [Except.map]

theorem map_eq_error {g : α → β} {e : ε} : x.map g = .error e ↔ x = .error e := by
  cases x <;> simp [Except.map]

theorem bind_eq_error {e : ε} (h : (x >>= f) = .error e) :
    x = .error e ∨ ∃ a, x = .ok a ∧ f a = .error e := by
  cases x with
  | error e' => exact .inl (congrArg _ (Except.error.inj h))
  | ok a => exact .inr ⟨a, rfl, h⟩

theorem mapError_ok (g : ε → ε') (a : α) : (Except.ok a : Except ε α).mapError g = .ok a :=
  rfl

theorem mapError_error (g : ε → ε') (e : ε) :
    (Except.error e : Except ε α).mapError g = .error (g e) :=
  rfl

theorem mapError_eq_ok {g : ε → ε'} {a : α} : x.mapError g = .ok a ↔ x = .ok a := by
  cases x <;> simp [mapError_ok, mapError_error]

theorem mapError_eq_error {g : ε → ε'} {e : ε'} :
    x.mapError g = .error e ↔ ∃ e', x = .error e' ∧ g e' = e := by
  cases x <;> simp [mapError_ok, mapError_error]

theorem eq_ok_of_toOption {a : α} (h : x.toOption = some a) : x = .ok a := by
  cases x with
  | error e => cases h
  | ok b => exact congrArg Except.ok (Option.some.inj h)

end Results

/-! ## Errors -/

/-- What stands where something else was wanted. -/
inductive Found where
  | scalar (s : Scalar)
  | list
  | record
deriving DecidableEq, Repr

/-- What was wanted. -/
inductive Wanted where
  | text
  | bool
  | list
  | map
  | record (name : String)
deriving DecidableEq, Repr

/-- What can be wrong with data. -/
inductive ReadError where
  | invalidType (found : Found) (wanted : Wanted)
  /-- A record written as a list ends too early. -/
  | invalidLength (length : Nat) (record : String) (fields : Nat)
  /-- A record written as a list does not end after its fields. -/
  | surplusText
  | surplusItems (length : Nat)
  | missingField (name : String)
  | duplicateField (name : String)
  | noVariant (name : String)
  | unreadable
  | inParameters (e : ReadError)
  | inOperation (m : OpenApi.Method) (e : ReadError)
deriving DecidableEq, Repr

/-- The wording of what was found. -/
def Found.phrase : Found → String
  | scalar .null => "null"
  | scalar (.bool b) => "boolean `" ++ (if b then "true" else "false") ++ "`"
  | scalar (.integer n) => "integer `" ++ toString n ++ "`"
  | scalar (.real x) => "floating point `" ++ NumberLayout.json.write x ++ "`"
  | scalar (.string s) => "string " ++ Text.quoted s
  | list => "sequence"
  | record => "map"

/-- The wording of what was wanted. -/
def Wanted.phrase : Wanted → String
  | text => "a string"
  | bool => "a boolean"
  | list => "a sequence"
  | map => "a map"
  | record name => "struct " ++ name

/-- A counted noun, in the plural unless there is one. -/
def countedElements (n : Nat) : String :=
  toString n ++ (if n = 1 then " element" else " elements")

/-- The wording of an error. -/
def ReadError.message : ReadError → String
  | invalidType found wanted => "invalid type: " ++ found.phrase ++ ", expected " ++ wanted.phrase
  | invalidLength n record fields =>
    "invalid length " ++ toString n ++ ", expected struct " ++ record ++ " with "
      ++ countedElements fields
  | surplusText => "trailing characters"
  | surplusItems n => "invalid length " ++ toString n ++ ", expected fewer elements in array"
  | missingField name => "missing field `" ++ name ++ "`"
  | duplicateField name => "duplicate field `" ++ name ++ "`"
  | noVariant name => "data did not match any variant of untagged enum " ++ name
  | unreadable => "unreadable data"
  | inParameters e => "parameters: " ++ e.message
  | inOperation m e => m.name ++ " operation: " ++ e.message

/-! ## Rules of the notations -/

/-- Where the notations differ. -/
structure Rules where
  /-- A record may be written as the list of its fields. -/
  positional : Bool
  /-- Every scalar can stand for its text. -/
  scalarText : Bool
  /-- Nothing at all stands for an empty list, map or record. -/
  blankIsEmpty : Bool
  /-- The error of a record written as a list of the given length, when it does not end. -/
  surplus : Nat → ReadError

/-- The rules of JSON text. -/
def Rules.jsonText : Rules where
  positional := true
  scalarText := false
  blankIsEmpty := false
  surplus := fun _ => .surplusText

/-- The rules of data whose untyped value is known: JSON values, and what is tried in several
ways. -/
def Rules.jsonValue : Rules where
  positional := true
  scalarText := false
  blankIsEmpty := false
  surplus := .surplusItems

/-- The rules of YAML text. -/
def Rules.yaml : Rules where
  positional := false
  scalarText := true
  blankIsEmpty := true
  surplus := .surplusItems

/-! ## Parts of typed data -/

/-- A scalar where something else was wanted. -/
def wrongLeaf {α : Type} (l : Leaf) (wanted : Wanted) : Except ReadError α :=
  match l.value with
  | some s => .error (.invalidType (.scalar s) wanted)
  | none => .error .unreadable

/-- A node where something else was wanted. -/
def wrongNode {α : Type} (wanted : Wanted) : Node → Except ReadError α
  | .leaf l => wrongLeaf l wanted
  | .list _ => .error (.invalidType .list wanted)
  | .record _ => .error (.invalidType .record wanted)
  | .tagged n => wrongNode wanted n

/-- The scalar is nothing at all, which has an empty text and means `null`. -/
def Leaf.isBlank (l : Leaf) : Bool :=
  l.text == some "" && l.value == some .null

/-- The node means `null`. -/
def Node.isNull : Node → Bool
  | .leaf l => l.value == some .null
  | _ => false

/-- The text of a scalar that stands where a text is wanted. -/
def Rules.textOf? (rules : Rules) (l : Leaf) : Option String :=
  if rules.scalarText then l.text
  else
    match l.value with
    | some (.string s) => some s
    | _ => none

/-- A text. -/
def readText (rules : Rules) : Node → Except ReadError String
  | .leaf l =>
    match rules.textOf? l with
    | some s => .ok s
    | none => wrongLeaf l .text
  | .tagged n => readText rules n
  | n => wrongNode .text n

/-- A Boolean. -/
def readBool : Node → Except ReadError Bool
  | .leaf l =>
    match l.value with
    | some (.bool b) => .ok b
    | _ => wrongLeaf l .bool
  | n => wrongNode .bool n

/-- Something that may be `null`. -/
def readOption {α : Type} (read : Node → Except ReadError α) (n : Node) :
    Except ReadError (Option α) :=
  if n.isNull then .ok none else (read n).map some

/-- Each of some nodes. -/
def readEach {α : Type} (read : Node → Except ReadError α) : List Node → Except ReadError (List α)
  | [] => .ok []
  | n :: ns => do
    let a ← read n
    let as ← readEach read ns
    return a :: as

/-- A list. -/
def readList {α : Type} (rules : Rules) (read : Node → Except ReadError α) :
    Node → Except ReadError (List α)
  | .list ns => readEach read ns
  | .leaf l => if rules.blankIsEmpty && l.isBlank then .ok [] else wrongLeaf l .list
  | .tagged n => readList rules read n
  | n => wrongNode .list n

/-- The text of a key. -/
def Rules.key (rules : Rules) (k : Leaf) : Except ReadError String :=
  match rules.textOf? k with
  | some s => .ok s
  | none => .error .unreadable

/-- The values of some entries, with their keys. -/
def readEntries {α : Type} (rules : Rules) (read : Node → Except ReadError α) :
    List (Leaf × Node) → Except ReadError (List (String × α))
  | [] => .ok []
  | (k, n) :: es => do
    let name ← rules.key k
    let a ← read n
    let rest ← readEntries rules read es
    return (name, a) :: rest

/-- The entries of a map. -/
def readPairs {α : Type} (rules : Rules) (read : Node → Except ReadError α) :
    Node → Except ReadError (List (String × α))
  | .record es => readEntries rules read es
  | .leaf l => if rules.blankIsEmpty && l.isBlank then .ok [] else wrongLeaf l .map
  | .tagged n => readPairs rules read n
  | n => wrongNode .map n

/-- A map: each key stands where it first came, with its last value. -/
def readMap {α : Type} (rules : Rules) (read : Node → Except ReadError α) (n : Node) :
    Except ReadError (OrderedMap String α) :=
  (readPairs rules read n).map OrderedMap.ofPairs

/-! ## Records -/

/-- Whether a field has to be given. -/
inductive Need where
  | required
  /-- An absent field is `none`, but it has its place in a list. -/
  | optional
  /-- An absent field has a default, also at the end of a list. -/
  | defaulted
deriving DecidableEq, Repr

/-- The names of the fields of a record, in order. -/
structure RecordForm where
  name : String
  fields : List (String × Need)
deriving DecidableEq, Repr

namespace RecordForm

/-- The field is one of the record's. -/
def hasField (form : RecordForm) (name : String) : Bool :=
  form.fields.any fun f => f.1 == name

/-- Every required field was given. -/
def checkGiven (form : RecordForm) (given : List String) : Except ReadError Unit :=
  match form.fields.find? fun f => f.2 == .required && !given.contains f.1 with
  | some f => .error (.missingField f.1)
  | none => .ok ()

/-- A list that ends after `given` fields leaves out only fields with a default. -/
def checkLength (form : RecordForm) (given : Nat) : Except ReadError Unit :=
  match (form.fields.drop given).findIdx? fun f => f.2 != .defaulted with
  | some i => .error (.invalidLength (given + i) form.name form.fields.length)
  | none => .ok ()

/-- The error of a repeated field. -/
def checkFresh (given : List String) (name : String) : Except ReadError Unit :=
  if given.contains name then .error (.duplicateField name) else .ok ()

end RecordForm

/-- The fields of a record from its entries; fields it does not have are passed over. -/
def readFields {σ : Type} (rules : Rules) (form : RecordForm)
    (set : String → Node → σ → Except ReadError σ) :
    List (Leaf × Node) → List String → σ → Except ReadError σ
  | [], given, draft => do
    form.checkGiven given
    return draft
  | (k, n) :: es, given, draft => do
    let name ← rules.key k
    if form.hasField name then
      RecordForm.checkFresh given name
      let draft ← set name n draft
      readFields rules form set es (name :: given) draft
    else readFields rules form set es given draft

/-- The fields of a record from a list of their values. -/
def readPositions {σ : Type} (rules : Rules) (form : RecordForm) (length : Nat)
    (set : String → Node → σ → Except ReadError σ) :
    List (String × Need) → List Node → σ → Except ReadError σ
  | [], [], draft => .ok draft
  | [], _ :: _, _ => .error (rules.surplus length)
  | _ :: _, [], draft => do
    form.checkLength length
    return draft
  | f :: fields, n :: ns, draft => do
    let draft ← set f.1 n draft
    readPositions rules form length set fields ns draft

/-- A record, where `set` puts the value of a field into a draft. -/
def readRecord {σ : Type} (rules : Rules) (form : RecordForm)
    (set : String → Node → σ → Except ReadError σ) (draft : σ) : Node → Except ReadError σ
  | .record es => readFields rules form set es [] draft
  | .list ns =>
    if rules.positional then readPositions rules form ns.length set form.fields ns draft
    else .error (.invalidType .list (.record form.name))
  | .leaf l =>
    if rules.blankIsEmpty && l.isBlank then do
      form.checkGiven []
      return draft
    else wrongLeaf l (.record form.name)
  | .tagged n => readRecord rules form set draft n

end TypedRequests
