import TypedRequests.Json.Reader
import TypedRequests.OpenApi.Schema
import TypedRequests.Reading

/-!
# Reading schemas

* `Schema.read` : a schema from a node.
* `Schema.ofJsonText` : a schema from JSON text.

Some parts of a schema may take several shapes. They are tried in turn on the untyped value of the
part, and a part that has none of the shapes is an error. An untyped value has its keys as texts.
That the kind of a key of YAML text could count, so that a record with the key `200` would have no
untyped value or be taken for one with another field, is left out. The same goes for entries of
parameter lists.
-/

set_option autoImplicit false

namespace TypedRequests.OpenApi

/-- The part has an untyped value, so that its shapes can be tried. -/
def checkReadable (n : Node) : Except ReadError Unit :=
  if n.toJson?.isSome then .ok () else .error .unreadable

/-- One type name or several. -/
def readTypeNames (n : Node) : Except ReadError TypeNames := do
  checkReadable n
  match readText .jsonValue n, readList .jsonValue (readText .jsonValue) n with
  | .ok name, _ => return .single name
  | .error _, .ok names => return .multiple names
  | .error _, .error _ => .error (.noVariant "SchemaType")

/-- A listed value. An integer is kept as one if it fits in 64 bits with a sign. -/
def EnumValue.ofJson : Json → EnumValue
  | .scalar (.string s) => .string s
  | .scalar (.integer n) => if fitsSigned 64 n then .integer n else .real (Binary64.ofInt n)
  | .scalar (.real x) => .real x
  | .scalar (.bool b) => .bool b
  | v => .other v

/-- A listed value from a node. A number need not be finite. -/
def readEnumValue : Node → Except ReadError EnumValue
  | .leaf ⟨_, some (.real x)⟩ => .ok (.real x)
  | n =>
    match n.toJson? with
    | some v => .ok (.ofJson v)
    | none => .error .unreadable

namespace Schema

/-- The fields of a schema. -/
def form : RecordForm where
  name := "SchemaNode"
  fields :=
    [("type", .optional), ("$ref", .optional), ("items", .optional), ("properties", .optional),
      ("additionalProperties", .optional), ("enum", .optional), ("nullable", .optional),
      ("description", .optional), ("format", .optional)]

/-- Properties that are not named: allowed or not, or of a schema. -/
def readAdditional (n : Node) (schema : Rules → Except ReadError Schema) :
    Except ReadError (Additional Schema) := do
  checkReadable n
  match readBool n, schema .jsonValue with
  | .ok b, _ => return .allowed b
  | .error _, .ok s => return .schema s
  | .error _, .error _ => .error (.noVariant "AdditionalProperties")

/-- The value of a field put into a schema, where `schema` and `properties` read the node as a
schema and as a map of schemas. -/
def setField (rules : Rules) (name : String) (n : Node)
    (schema : Rules → Except ReadError Schema)
    (properties : Rules → Except ReadError (List (String × Schema))) (s : Schema) :
    Except ReadError Schema :=
  match name with
  | "type" => (readOption readTypeNames n).map fun v => { s with type := v }
  | "$ref" => (readOption (readText rules) n).map fun v => { s with reference := v }
  | "items" => (readOption (fun _ => schema rules) n).map fun v => { s with items := v }
  | "properties" =>
    (readOption (fun _ => properties rules) n).map fun v => { s with properties := v }
  | "additionalProperties" =>
    (readOption (fun n => readAdditional n schema) n).map fun v => { s with additional := v }
  | "enum" => (readOption (readList rules readEnumValue) n).map fun v => { s with enumValues := v }
  | "nullable" => (readOption readBool n).map fun v => { s with nullable := v }
  | "description" => (readOption (readText rules) n).map fun v => { s with description := v }
  | "format" => (readOption (readText rules) n).map fun v => { s with format := v }
  | _ => .ok s

mutual

/-- A schema. -/
def read (rules : Rules) : Node → Except ReadError Schema
  | .record es => readFields rules es [] empty
  | .list ns =>
    if rules.positional then readPositions rules ns.length form.fields ns empty
    else .error (.invalidType .list (.record form.name))
  | .leaf l =>
    if rules.blankIsEmpty && l.isBlank then .ok empty else wrongLeaf l (.record form.name)
  | .tagged n => read rules n

/-- The fields of a schema from its entries. -/
def readFields (rules : Rules) : List (Leaf × Node) → List String → Schema →
    Except ReadError Schema
  | [], _, s => .ok s
  | (k, n) :: es, given, s => do
    let name ← rules.key k
    if form.hasField name then
      RecordForm.checkFresh given name
      let s ← setField rules name n (fun r => read r n) (fun r => readProperties r n) s
      readFields rules es (name :: given) s
    else readFields rules es given s

/-- The fields of a schema from a list of their values. -/
def readPositions (rules : Rules) (length : Nat) : List (String × Need) → List Node → Schema →
    Except ReadError Schema
  | [], [], s => .ok s
  | _ :: _, [], s => do
    form.checkLength length
    return s
  | [], _ :: _, _ => .error (rules.surplus length)
  | f :: fields, n :: ns, s => do
    let s ← setField rules f.1 n (fun r => read r n) (fun r => readProperties r n) s
    readPositions rules length fields ns s

/-- A map of schemas: each key stands where it first came, with its last value. -/
def readProperties (rules : Rules) : Node → Except ReadError (List (String × Schema))
  | .record es => (readPropertyEntries rules es).map Entries.ofPairs
  | .leaf l => if rules.blankIsEmpty && l.isBlank then .ok [] else wrongLeaf l .map
  | .list _ => .error (.invalidType .list .map)
  | .tagged n => readProperties rules n

/-- The entries of a map of schemas. -/
def readPropertyEntries (rules : Rules) : List (Leaf × Node) →
    Except ReadError (List (String × Schema))
  | [] => .ok []
  | (k, n) :: es => do
    let name ← rules.key k
    let s ← read rules n
    let rest ← readPropertyEntries rules es
    return (name, s) :: rest

end

/-- A schema from JSON text. None stands for a text that is not JSON. -/
def ofJsonText (text : String) : Except (Option ReadError) Schema :=
  match Node.ofJsonText? text with
  | some n => (read .jsonText n).mapError some
  | none => .error none

end Schema

end TypedRequests.OpenApi
