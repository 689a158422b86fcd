import TypedRequests.Json.Printer
import TypedRequests.PathTemplate
import TypedRequests.Request.Context
import TypedRequests.Request.Report

/-!
# Endpoints

An endpoint is an operation of a path with its parameters sorted out. Endpoints are grouped into
modules by the tag that owns them.

* `mergeParameters` : parameter lists in which a later parameter takes the place of an earlier one.
* `Endpoint.ofOperation` : the endpoint of an operation.
* `TagModule`, `extract` : the modules of a document; `Extraction.step` says what becomes of one
  operation.
-/

set_option autoImplicit false

namespace TypedRequests.Request

open OpenApi

/-! ## Parameters -/

/-- A placeholder of the path with what is declared for it. -/
structure RouteParameter where
  name : String
  description : Option String
  schema : Option Schema
deriving Repr

/-- A parameter in the query. -/
structure QueryParameter where
  name : String
  description : Option String
  required : Bool
  schema : Option Schema
deriving Repr

/-- The two parameters have the same name and place. -/
def sameParameter (p q : Parameter) : Bool :=
  p.name == q.name && p.location == q.location

/-- The parameters with a further one, which takes the place of one with its name and place. -/
def putParameter (p : Parameter) : List Parameter → List Parameter
  | [] => [p]
  | q :: qs => if sameParameter q p then p :: qs else q :: putParameter p qs

/-- The parameters put one after the other. -/
def mergeParameters (ps : List Parameter) : List Parameter :=
  ps.foldl (fun merged p => putParameter p merged) []

/-- The parameters of an operation: those of its path, then its own. -/
def entriesOf (item : PathItem) (o : Operation) : List ParameterEntry :=
  item.parameters ++ o.parameters

/-- What a notice calls an entry of a parameter list. -/
def ParameterEntry.describe : ParameterEntry → String
  | .reference target => target
  | .inline p => p.name
  | .malformed v => v.compact

/-- The route parameter of a placeholder without declaration. -/
def RouteParameter.undeclared (name : String) : RouteParameter :=
  ⟨name, none, none⟩

/-- Route parameters with those of further placeholders, each once. -/
def addPlaceholders (route : List RouteParameter) : List String → List RouteParameter
  | [] => route
  | name :: names =>
    if route.any fun r => r.name == name then addPlaceholders route names
    else addPlaceholders (route ++ [.undeclared name]) names

/-! ## Endpoints -/

/-- An operation with its parameters sorted out. -/
structure Endpoint where
  path : String
  method : Method
  summary : Option String
  route : List RouteParameter
  query : List QueryParameter
  body : Option Payload
  responses : OrderedMap String Payload

namespace Endpoint

/-- The parameters at a place. -/
def parametersAt (location : Location) (ps : List Parameter) : List Parameter :=
  ps.filter fun p => p.location == location

/-- The endpoint of an operation. Entries that stand for no parameter are left out. -/
def ofOperation (d : Document) (path : String) (method : Method) (item : PathItem)
    (o : Operation) : Endpoint :=
  let ps := mergeParameters ((entriesOf item o).filterMap d.parameter?)
  { path := path
    method := method
    summary := o.summary
    route := addPlaceholders
      ((parametersAt .path ps).map fun p => ⟨p.name, p.description, p.schema⟩)
      (PathTemplate.namesIn path)
    query := (parametersAt .query ps).map fun p => ⟨p.name, p.description, p.required, p.schema⟩
    body := o.requestBody
    responses := o.responses }

/-- A notice for each entry that stands for no parameter. -/
def notices (d : Document) (path : String) (method : Method) (item : PathItem) (o : Operation) :
    List Notice :=
  ((entriesOf item o).filter fun e => (d.parameter? e).isNone).map fun e =>
    .unresolvableParameter path method (ParameterEntry.describe e)

/-- The status of success. -/
def successStatus : String := "200"

/-- The schema of the response of success. -/
def successSchema? (e : Endpoint) : Option Schema :=
  (e.responses.find? successStatus).bind Payload.jsonSchema?

end Endpoint

/-! ## Modules -/

/-- The endpoints that a tag owns. -/
structure TagModule where
  name : String
  description : String
  endpoints : List Endpoint

/-- An operation of a document where it stands. -/
structure PlacedOperation where
  path : String
  item : PathItem
  method : Method
  operation : Operation

/-- The paths that count: not the root, and not without text. -/
def usablePaths (d : Document) : List (String × PathItem) :=
  d.paths.entries.filter fun e => e.1 != "" && e.1 != "/"

/-- The operations on usable paths that the filter lets pass, in document order. -/
def selectedOperations (d : Document) (ctx : Context) : List PlacedOperation :=
  ((usablePaths d).filter fun e => allows ctx.filterEndpoint e.1).flatMap fun e =>
    e.2.operations.entries.map fun o => ⟨e.1, e.2, o.1, o.2⟩

/-- The tag that owns an operation. -/
def PlacedOperation.tag? (ctx : Context) (p : PlacedOperation) : Option String :=
  ctx.tagPolicy p.item p.operation

/-- The endpoint of an operation where it stands. -/
def PlacedOperation.endpoint (d : Document) (p : PlacedOperation) : Endpoint :=
  .ofOperation d p.path p.method p.item p.operation

/-! ## Extraction -/

/-- The modules of tags by the names of the tags. -/
abbrev Registry := OrderedMap String TagModule

/-- The registry with a tag, which has no endpoints yet. Of tags with one name the first counts. -/
def Registry.register (r : Registry) (t : Tag) : Registry :=
  match r.find? t.name with
  | some _ => r
  | none => r.put t.name ⟨t.name, t.description, []⟩

/-- The modules found so far, and what was said on the way. -/
structure Extraction where
  registry : Registry
  notices : List Notice

namespace Extraction

/-- The registered tags of a document, if it has a registry. -/
def start (d : Document) : Extraction :=
  ⟨(d.tags.getD []).foldl Registry.register .empty, []⟩

/-- An operation goes to the module of its tag. Without a registry of the document its tag is
registered first; an operation without a registered tag is dropped. -/
def step (d : Document) (ctx : Context) (x : Extraction) (p : PlacedOperation) : Extraction :=
  match p.tag? ctx with
  | none => ⟨x.registry, x.notices ++ [.untaggedOperation p.path p.method]⟩
  | some tag =>
    let registry := if d.tags.isSome then x.registry else x.registry.register ⟨tag, ""⟩
    match registry.find? tag with
    | none => ⟨registry, x.notices ++ [.unregisteredTag p.path p.method tag]⟩
    | some m =>
      ⟨registry.put tag { m with endpoints := m.endpoints ++ [p.endpoint d] },
        x.notices ++ Endpoint.notices d p.path p.method p.item p.operation⟩

/-- The modules that are kept: those of the tags that the filter lets pass and that own an
operation. -/
def modules (ctx : Context) (x : Extraction) : List TagModule :=
  ((x.registry.entries.map Prod.snd).filter fun m => allows ctx.filterTag m.name).filter
    fun m => !m.endpoints.isEmpty

end Extraction

/-- The modules of a document, which has to have a usable path. -/
def extract (d : Document) (ctx : Context) : Outcome (List TagModule) :=
  if (usablePaths d).isEmpty then .fail (.document .noPaths)
  else
    let x := (selectedOperations d ctx).foldl (Extraction.step d ctx) (Extraction.start d)
    ⟨x.notices, .ok (x.modules ctx)⟩

end TypedRequests.Request
