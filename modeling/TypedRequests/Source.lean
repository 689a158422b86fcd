import TypedRequests.Readers

/-!
# Where documents come from

A document is known by its location, which also says whether it may be YAML.

* `Source.isRemote`, `Source.isYaml` : what a location says.
* `Readers.document`, `Readers.value?` : the document and the value of a text from a location.
* `Source.document`, `Source.value?` : what they are for the readers of this library.
-/

set_option autoImplicit false

namespace TypedRequests

open OpenApi

namespace Source

/-- The text begins with another. -/
def startsWith (start s : String) : Bool :=
  (Text.stripPrefix? start.toList s.toList).isSome

/-- The text ends with another. -/
def endsWith (finish s : String) : Bool :=
  (Text.stripSuffix? finish.toList s.toList).isSome

/-- The location is on another machine. -/
def isRemote (location : String) : Bool :=
  startsWith "http://" location || startsWith "https://" location

/-- The location without a query and a fragment. -/
def withoutQuery (location : String) : String :=
  String.ofList (location.toList.takeWhile fun c => c != '?' && c != '#')

/-- The name of the location says that the document is YAML, in letters of either case. -/
def isYaml (location : String) : Bool :=
  let name := (withoutQuery location).map Char.toLower
  endsWith ".yaml" name || endsWith ".yml" name

end Source

namespace Readers

variable (readers : Readers) (location text : String)

/-- The document of a text: JSON, or else YAML if the location says so. -/
def document : Except DocumentError Document :=
  match readers.jsonDocument text with
  | .ok d => .ok d
  | .error e => if Source.isYaml location then readers.yamlDocument text else .error e

/-- The value of a text: JSON, or else YAML if the location says so. -/
def value? : Option Json :=
  match readers.jsonValue? text with
  | some v => some v
  | none => if Source.isYaml location then readers.yamlValue? text else none

end Readers

namespace Source

variable (location text : String)

/-- The document of a text for the readers of this library. -/
def document : Except DocumentError Document :=
  Readers.builtin.document location text

/-- The value of a text for the readers of this library. -/
def value? : Option Json :=
  Readers.builtin.value? location text

theorem document_eq : document location text =
    match Document.ofJsonText text with
    | .ok d => .ok d
    | .error e => if isYaml location then Document.ofYamlText text else .error e :=
  rfl

theorem value?_eq : value? location text =
    match Json.ofText? text with
    | some v => some v
    | none => if isYaml location then (Node.ofYamlText? text).bind Node.toJson? else none :=
  rfl

end Source

end TypedRequests
