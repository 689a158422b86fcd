import TypedRequests.Names
import TypedRequests.Request.Endpoint

/-!
# Request functions

Each endpoint becomes a function whose parameters are those of the route, the query and the body.

* `EmittedFunction` : the function, its query type and the types it uses.
* `emitFunction` : the function of an endpoint, with the names taken so far.
* `EmittedFunction.modelImports` : the names that the function needs from the model module.
-/

set_option autoImplicit false

namespace TypedRequests.Request

open OpenApi TypeScript

/-- The name of the parameter with the query. -/
def queryName : String := "query"

/-- The name of the parameter with the body. -/
def dataName : String := "data"

/-- A function with what its module needs to know. -/
structure EmittedFunction where
  function : Function
  /-- The declared query type with its name. -/
  query : Option (String × Statement)
  bodyType : Option TypeExpr
  responseType : TypeExpr
  routeTypes : List TypeExpr

namespace EmittedFunction

/-- The types that may come from the model module, in order. -/
def modelTypes (f : EmittedFunction) : List TypeExpr :=
  f.routeTypes ++ f.bodyType.toList ++ [f.responseType]

/-- The names that the function needs from the model module, each once. -/
def modelImports (ctx : Context) (f : EmittedFunction) : List String :=
  ((f.modelTypes.flatMap TypeExpr.names).filter fun n => !ctx.isBuiltin n).eraseDups

end EmittedFunction

namespace Endpoint

/-! ## Parameters -/

/-- The names of the route parameters. -/
def routeNames (e : Endpoint) : List String :=
  e.route.map RouteParameter.name

/-- The names of the parameters that are not of the route. -/
def fixedNames (e : Endpoint) : List String :=
  (if e.query.isEmpty then [] else [queryName]) ++ (if e.body.isNone then [] else [dataName])

/-- The variable names of the route parameters, in order. -/
def routeIdentifiers (e : Endpoint) : List String :=
  distinctIdentifiers e.fixedNames (e.routeNames.map Naming.sanitized)

/-- Where an endpoint stands, for messages. -/
def location (e : Endpoint) : String :=
  e.method.capitalName ++ " " ++ e.path

/-- The type of a route parameter; it is a string if nothing else is declared. -/
def routeType (e : Endpoint) (r : RouteParameter) : Except GenerateError TypeExpr :=
  match r.schema with
  | none => .ok .string
  | some s =>
    s.describe.mapError (.schema (e.location ++ " path parameter `" ++ r.name ++ "`"))

/-- The variable name for a placeholder: that of its route parameter, if there is one. -/
def placeholderIdentifier (e : Endpoint) (placeholder : String) : String :=
  ((e.routeNames.zip e.routeIdentifiers).lookup placeholder).getD (Naming.sanitized placeholder)

/-- The address as an expression: a template literal if there are route parameters. -/
def urlExpression (e : Endpoint) (path : String) : String :=
  if e.route.isEmpty then stringLiteral path
  else PathTemplate.literalOf path e.placeholderIdentifier

/-! ## The query type -/

/-- The schema of a query parameter as a property: what the schema leaves open, the parameter
says. -/
def querySchemaOf (p : QueryParameter) : Schema :=
  let s := p.schema.getD .empty
  { s with
    description := s.description.or p.description
    nullable := some (s.nullable.getD (!p.required)) }

/-- The description of the query type. -/
def queryDescription (e : Endpoint) : String :=
  match e.summary with
  | some summary =>
    if Text.isAllBlank summary then "query params" else Text.trimmed summary ++ " query params"
  | none => "query params"

/-- The schema of an object with all query parameters. -/
def querySchema (e : Endpoint) : Schema :=
  { Schema.empty with
    description := some e.queryDescription
    properties := some (Entries.ofPairs (e.query.map fun p => (p.name, querySchemaOf p))) }

/-- The query type of an endpoint with query parameters, after the function is named. -/
def emitQuery (e : Endpoint) (function : String) (names : Names) :
    Except GenerateError (Option (String × Statement)) × Names :=
  if e.query.isEmpty then (.ok none, names)
  else
    let (name, names) := names.claimType (Naming.queryTypeName function)
    ((declare name e.querySchema).mapError (.schema (e.location ++ " query parameters"))
      |>.map fun s => some (name, s), names)

/-! ## Body and response -/

/-- The type of the body of an endpoint with a body. -/
def emitBody (e : Endpoint) : Except GenerateError (Option TypeExpr) :=
  match e.body with
  | none => .ok none
  | some body =>
    ((Schema.typeOf body.jsonSchema?).mapError (.schema (e.location ++ " request body"))).map some

/-- The type of the response of success. -/
def emitResponse (e : Endpoint) : Except GenerateError TypeExpr :=
  (Schema.typeOf e.successSchema?).mapError (.schema (e.location ++ " response"))

/-! ## The function -/

/-- A text without white space around it, if anything is left. -/
def nonBlank (s : Option String) : Option String :=
  match s with
  | some s => if Text.isAllBlank s then none else some (Text.trimmed s)
  | none => none

/-- The line on a route parameter. -/
def parameterLine (r : RouteParameter) (identifier : String) : String :=
  match nonBlank r.description with
  | some d => "@param " ++ identifier ++ " " ++ d
  | none => "@param " ++ identifier

/-- The documentation of the function: the summary, and a line for each route parameter. -/
def functionDoc (e : Endpoint) : Option String :=
  let lines := (nonBlank e.summary).toList ++ e.route.zipWith parameterLine e.routeIdentifiers
  if lines.isEmpty then none else some ("\n".intercalate lines)

/-- The parameters of the function: of the route, then the query, then the body. -/
def parameters (e : Endpoint) (routeTypes : List TypeExpr) (query : Option (String × Statement))
    (bodyType : Option TypeExpr) : List TypeScript.Parameter :=
  e.routeIdentifiers.zipWith .mk routeTypes
    ++ query.toList.map (fun q => ⟨queryName, .reference q.1⟩)
    ++ bodyType.toList.map (fun t => ⟨dataName, t⟩)

/-- The function from its types, for the path of its requests. -/
def finish (e : Endpoint) (ctx : Context) (path name : String) (routeTypes : List TypeExpr)
    (query : Option (String × Statement)) : Except GenerateError EmittedFunction := do
  let bodyType ← e.emitBody
  let responseType ← e.emitResponse
  let call : CallInfo :=
    { url := e.urlExpression path
      method := e.method
      query := query.map fun _ => queryName
      body := bodyType.map fun _ => dataName
      response := responseType.text }
  let body ← (ctx.template call).mapError (.render .call)
  return {
    function := ⟨name, e.functionDoc, e.parameters routeTypes query bodyType, body⟩
    query := query
    bodyType := bodyType
    responseType := responseType
    routeTypes := routeTypes }

/-- The types of route parameters, in order. -/
def routeTypes (e : Endpoint) : List RouteParameter → Except GenerateError (List TypeExpr)
  | [] => .ok []
  | r :: rs => do
    let t ← e.routeType r
    let ts ← e.routeTypes rs
    return t :: ts

/-- The path of requests, which the settings may change. -/
def requestPath (e : Endpoint) (ctx : Context) : Except GenerateError String :=
  match ctx.pathHook with
  | none => .ok e.path
  | some hook => (hook e.path).mapError (.render .path)

end Endpoint

/-- The function of an endpoint, and the names taken afterwards. The function is named first, so
that its name stays taken when a schema has no type. -/
def emitFunction (ctx : Context) (e : Endpoint) (names : Names) :
    Except GenerateError EmittedFunction × Names :=
  match e.requestPath ctx with
  | .error error => (.error error, names)
  | .ok path =>
    let (name, names) := names.claim (Naming.functionName e.method path) e.routeNames
    match e.routeTypes e.route with
    | .error error => (.error error, names)
    | .ok routeTypes =>
      match e.emitQuery name names with
      | (.error error, names) => (.error error, names)
      | (.ok query, names) => (e.finish ctx path name routeTypes query, names)

end TypedRequests.Request
