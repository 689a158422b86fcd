import TypedRequests.OpenApi.Document
import TypedRequests.OpenApi.Schema.Reading
import TypedRequests.Yaml.Reader

/-!
# Reading documents

* `Document.read` : a document from a node.
* `Document.ofJsonText`, `Document.ofYamlText` : a document from text.
* `readParameterEntry` : an entry of a parameter list, which is always readable.
* `PathItem.ofMembers` : a path item from the members of an object, each method with its last value
  at its first place.
-/

set_option autoImplicit false

namespace TypedRequests.OpenApi

/-! ## Parameters -/

/-- The location of a given name. -/
def Location.ofName : String → Location
  | "path" => path
  | "query" => query
  | "header" => header
  | "cookie" => cookie
  | _ => other

/-- The node holds nothing: it means `null` or is a record without entries. -/
def isUnit : Node → Bool
  | .record [] => true
  | n => n.isNull

/-- A location: its name, or a record with its name as the only key and nothing as the value. -/
def readLocation : Node → Except ReadError Location
  | .record [(k, n)] =>
    match Rules.jsonValue.textOf? k with
    | some name => if isUnit n then .ok (.ofName name) else wrongNode .text n
    | none => .error .unreadable
  | n => (readText .jsonValue n).map .ofName

/-- The fields of a parameter. -/
def Parameter.form : RecordForm where
  name := "Parameter"
  fields :=
    [("name", .required), ("in", .required), ("description", .optional), ("required", .defaulted),
      ("schema", .optional)]

/-- The value of a field put into a parameter. -/
def Parameter.setField (name : String) (n : Node) (p : Parameter) : Except ReadError Parameter :=
  match name with
  | "name" => (readText .jsonValue n).map fun v => { p with name := v }
  | "in" => (readLocation n).map fun v => { p with location := v }
  | "description" =>
    (readOption (readText .jsonValue) n).map fun v => { p with description := v }
  | "required" => (readBool n).map fun v => { p with required := v }
  | "schema" => (readOption (Schema.read .jsonValue) n).map fun v => { p with schema := v }
  | _ => .ok p

/-- A parameter. -/
def Parameter.read (n : Node) : Except ReadError Parameter :=
  readRecord .jsonValue Parameter.form Parameter.setField ⟨"", .other, none, false, none⟩ n

/-- The only field of a reference. -/
def referenceForm : RecordForm where
  name := "Ref"
  fields := [("$ref", .required)]

/-- The target of a reference, which is a record. -/
def readReference : Node → Except ReadError String
  | .record es =>
    readFields .jsonValue referenceForm (fun _ n _ => readText .jsonValue n) es [] ""
  | n => wrongNode (.record "Ref") n

/-- An entry of a parameter list: a reference, else a parameter, else any value. -/
def readParameterEntry (n : Node) : Except ReadError ParameterEntry :=
  match n.toJson? with
  | none => .error .unreadable
  | some v =>
    match readReference n, Parameter.read n with
    | .ok target, _ => .ok (.reference target)
    | .error _, .ok p => .ok (.inline p)
    | .error _, .error _ => .ok (.malformed v)

/-! ## Operations -/

/-- The only field of a media type. -/
def MediaType.form : RecordForm where
  name := "MediaType"
  fields := [("schema", .optional)]

/-- A media type. -/
def MediaType.read (n : Node) : Except ReadError MediaType :=
  readRecord .jsonValue MediaType.form
    (fun _ n _ => (readOption (Schema.read .jsonValue) n).map .mk) ⟨none⟩ n

/-- The fields of a request body or response. -/
def Payload.form (name : String) : RecordForm where
  name := name
  fields := [("description", .optional), ("content", .defaulted)]

/-- The value of a field put into a payload. -/
def Payload.setField (name : String) (n : Node) (p : Payload) : Except ReadError Payload :=
  match name with
  | "description" =>
    (readOption (readText .jsonValue) n).map fun v => { p with description := v }
  | "content" => (readMap .jsonValue MediaType.read n).map fun v => { p with content := v }
  | _ => .ok p

/-- A request body or response; `name` says which. -/
def Payload.read (name : String) (n : Node) : Except ReadError Payload :=
  readRecord .jsonValue (Payload.form name) Payload.setField ⟨none, .empty⟩ n

/-- The fields of an operation. -/
def Operation.form : RecordForm where
  name := "Operation"
  fields :=
    [("tags", .defaulted), ("summary", .optional), ("description", .optional),
      ("parameters", .defaulted), ("requestBody", .optional), ("responses", .defaulted)]

/-- The value of a field put into an operation. -/
def Operation.setField (name : String) (n : Node) (o : Operation) : Except ReadError Operation :=
  match name with
  | "tags" => (readList .jsonValue (readText .jsonValue) n).map fun v => { o with tags := v }
  | "summary" => (readOption (readText .jsonValue) n).map fun v => { o with summary := v }
  | "description" =>
    (readOption (readText .jsonValue) n).map fun v => { o with description := v }
  | "parameters" =>
    (readList .jsonValue readParameterEntry n).map fun v => { o with parameters := v }
  | "requestBody" =>
    (readOption (Payload.read "RequestBody") n).map fun v => { o with requestBody := v }
  | "responses" =>
    (readMap .jsonValue (Payload.read "Response") n).map fun v => { o with responses := v }
  | _ => .ok o

/-- An operation. -/
def Operation.read (n : Node) : Except ReadError Operation :=
  readRecord .jsonValue Operation.form Operation.setField ⟨[], none, none, [], none, .empty⟩ n

/-! ## Path items -/

namespace PathItem

/-- The path item without operations. -/
def empty : PathItem :=
  ⟨.empty, []⟩

/-- The key of shared parameters. -/
def parametersKey : String := "parameters"

/-- A path item with a further member. Keys that are neither a method nor that of the parameters
do not matter. -/
def addMember (item : PathItem) (key : String) (v : Json) : Except ReadError PathItem :=
  if key = parametersKey then
    match readList .jsonValue readParameterEntry (Node.ofJson v) with
    | .ok ps => .ok { item with parameters := ps }
    | .error e => .error (.inParameters e)
  else
    match Method.ofName? key with
    | none => .ok item
    | some m =>
      match Operation.read (Node.ofJson v) with
      | .ok o => .ok { item with operations := item.operations.put m o }
      | .error e => .error (.inOperation m e)

/-- A method has another name than the parameters. -/
theorem name_ne_parametersKey (m : Method) : m.name ≠ parametersKey := by
  cases m <;> decide

/-- Every key says that there are parameters, or which method there is, or nothing. -/
theorem key_cases (key : String) : key = parametersKey ∨ (∃ m : Method, key = m.name) ∨
    (key ≠ parametersKey ∧ Method.ofName? key = none) := by
  by_cases hkey : key = parametersKey
  · exact .inl hkey
  · cases hm : Method.ofName? key with
    | none => exact .inr (.inr ⟨hkey, rfl⟩)
    | some m => exact .inr (.inl ⟨m, (Method.ofName?_eq_some hm).symm⟩)

theorem addMember_parametersKey (item : PathItem) (v : Json) : item.addMember parametersKey v =
    ((readList .jsonValue readParameterEntry (Node.ofJson v)).mapError .inParameters).map
      fun ps => { item with parameters := ps } := by
  rw [addMember, if_pos rfl]
  cases readList .jsonValue readParameterEntry (Node.ofJson v) <;> rfl

theorem addMember_name (item : PathItem) (m : Method) (v : Json) : item.addMember m.name v =
    ((Operation.read (Node.ofJson v)).mapError (.inOperation m)).map
      fun o => { item with operations := item.operations.put m o } := by
  rw [addMember, if_neg (name_ne_parametersKey m), Method.ofName?_name]
  cases Operation.read (Node.ofJson v) <;> rfl

theorem addMember_parametersKey_eq_ok {item item' : PathItem} {v : Json} :
    item.addMember parametersKey v = .ok item' ↔
      ∃ ps, readList .jsonValue readParameterEntry (Node.ofJson v) = .ok ps ∧
        { item with parameters := ps } = item' := by
  rw [addMember_parametersKey, map_eq_ok]
  simp only [mapError_eq_ok]

theorem addMember_name_eq_ok {item item' : PathItem} {m : Method} {v : Json} :
    item.addMember m.name v = .ok item' ↔ ∃ o, Operation.read (Node.ofJson v) = .ok o ∧
      { item with operations := item.operations.put m o } = item' := by
  rw [addMember_name, map_eq_ok]
  simp only [mapError_eq_ok]

/-- Keys that say nothing add nothing, whatever their values. -/
theorem addMember_other {key : String} (hkey : key ≠ parametersKey)
    (hm : Method.ofName? key = none) (item : PathItem) (v : Json) :
    item.addMember key v = .ok item := by
  rw [addMember, if_neg hkey, hm]

/-- A path item with further members. -/
def addMembers (item : PathItem) : List (String × Json) → Except ReadError PathItem
  | [] => .ok item
  | (key, v) :: ms => do
    let item ← item.addMember key v
    addMembers item ms

/-- A path item from the members of an object, among which a repeated key has its last value at its
first place. -/
def ofMembers (ms : List (String × Json)) : Except ReadError PathItem :=
  addMembers empty (Entries.ofPairs ms)

/-- A JSON value from a node. -/
def readValue (n : Node) : Except ReadError Json :=
  match n.toJson? with
  | some v => .ok v
  | none => .error .unreadable

/-- A path item. -/
def read (rules : Rules) (n : Node) : Except ReadError PathItem := do
  let ms ← readPairs rules readValue n
  ofMembers ms

end PathItem

/-! ## Documents -/

/-- The fields of the information on a document. -/
def Info.form : RecordForm where
  name := "Info"
  fields := [("title", .defaulted), ("version", .defaulted)]

/-- The information on a document. -/
def Info.read (rules : Rules) (n : Node) : Except ReadError Info :=
  readRecord rules Info.form
    (fun name n i =>
      match name with
      | "title" => (readText rules n).map fun v => { i with title := v }
      | "version" => (readText rules n).map fun v => { i with version := v }
      | _ => .ok i)
    ⟨"", ""⟩ n

/-- The fields of a tag. -/
def Tag.form : RecordForm where
  name := "Tag"
  fields := [("name", .required), ("description", .defaulted)]

/-- A tag. -/
def Tag.read (rules : Rules) (n : Node) : Except ReadError Tag :=
  readRecord rules Tag.form
    (fun name n t =>
      match name with
      | "name" => (readText rules n).map fun v => { t with name := v }
      | "description" => (readText rules n).map fun v => { t with description := v }
      | _ => .ok t)
    ⟨"", ""⟩ n

/-- The fields of components. -/
def Components.form : RecordForm where
  name := "Components"
  fields := [("schemas", .optional), ("parameters", .defaulted)]

/-- Components. -/
def Components.read (rules : Rules) (n : Node) : Except ReadError Components :=
  readRecord rules Components.form
    (fun name n c =>
      match name with
      | "schemas" =>
        (readOption (readMap rules (Schema.read rules)) n).map fun v => { c with schemas := v }
      | "parameters" =>
        (readMap rules readParameterEntry n).map fun v => { c with parameters := v }
      | _ => .ok c)
    ⟨none, .empty⟩ n

namespace Document

/-- The fields of a document. -/
def form : RecordForm where
  name := "Document"
  fields :=
    [("openapi", .optional), ("info", .optional), ("paths", .defaulted), ("components", .optional),
      ("tags", .optional)]

/-- The value of a field put into a document. -/
def setField (rules : Rules) (name : String) (n : Node) (d : Document) :
    Except ReadError Document :=
  match name with
  | "openapi" => (readOption (readText rules) n).map fun v => { d with version := v }
  | "info" => (readOption (Info.read rules) n).map fun v => { d with info := v }
  | "paths" => (readMap rules (PathItem.read rules) n).map fun v => { d with paths := v }
  | "components" =>
    (readOption (Components.read rules) n).map fun v => { d with components := v }
  | "tags" => (readOption (readList rules (Tag.read rules)) n).map fun v => { d with tags := v }
  | _ => .ok d

/-- A document. -/
def read (rules : Rules) (n : Node) : Except ReadError Document :=
  readRecord rules form (setField rules) empty n

/-- A document from JSON text. -/
def ofJsonText (text : String) : Except DocumentError Document :=
  match Node.ofJsonText? text with
  | none => .error (.parse none)
  | some n => (read .jsonText n).mapError fun e => .parse (some e)

/-- A document from YAML text. -/
def ofYamlText (text : String) : Except DocumentError Document :=
  match Node.ofYamlText? text with
  | none => .error (.parse none)
  | some n => (read .yaml n).mapError fun e => .parse (some e)

end Document

end TypedRequests.OpenApi
