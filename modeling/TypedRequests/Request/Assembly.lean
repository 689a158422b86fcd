import TypedRequests.Request.Function

/-!
# The modules of a tag

A tag has an endpoint module with its functions and, if they have query types, a query module
beside it. Both are put together before anything is written.

* `TagPlan` : the texts and paths of the modules of a tag.
* `TagModule.plan` : the plan for a tag.
* `TagPlan.write` : the plan carried out by a file writer.
-/

set_option autoImplicit false

namespace TypedRequests.Request

open OpenApi TypeScript

/-! ## Functions -/

/-- The functions of endpoints, with the names taken before them. An endpoint with a schema that has
no type is left out; a failure to render ends the module. -/
def emitFunctions (ctx : Context) (tag : String) (names : Names) :
    List Endpoint → Outcome (List EmittedFunction)
  | [] => .pure []
  | e :: es =>
    match emitFunction ctx e names with
    | (.ok f, names) => (emitFunctions ctx tag names es).map (f :: ·)
    | (.error error@(.schema ..), names) =>
      (emitFunctions ctx tag names es).after [.skippedOperation tag error]
    | (.error error, _) => .fail error

/-- The declared query types of functions. -/
def queryStatements (fs : List EmittedFunction) : Module :=
  (fs.filterMap EmittedFunction.query).map Prod.snd

/-- The names of the query types of functions. -/
def queryTypes (fs : List EmittedFunction) : List String :=
  (fs.filterMap EmittedFunction.query).map Prod.fst

/-- The names that functions need from the model module, each once. -/
def modelImportsOf (ctx : Context) (fs : List EmittedFunction) : List String :=
  (fs.flatMap (EmittedFunction.modelImports ctx)).eraseDups

/-- The names that query types need from the model module, each once. -/
def queryImportsOf (ctx : Context) (fs : List EmittedFunction) : List String :=
  (((queryStatements fs).flatMap Statement.references).filter fun n => !ctx.isBuiltin n).eraseDups

/-! ## Modules -/

/-- An import of names, unless there are none. -/
def importOf (style : ImportStyle) (names : List String) (source : String) : Module :=
  if names.isEmpty then [] else [.importNames ⟨names, source, style.typeOnly⟩]

/-- The file of endpoint modules. -/
def endpointFile : Path := ⟨"index.ts"⟩

/-- The file of query modules. -/
def queryFile : Path := ⟨"model.ts"⟩

/-- The source of the query module, from the endpoint module. -/
def querySource : String := "./model.ts"

/-- The directory of a tag. -/
def tagDir (layout : OutputLayout) (tag : String) : Path :=
  layout.dir.join ⟨Naming.tagDirectory tag⟩

/-- The source of the model module, from the modules of a tag. -/
def modelSource (ctx : Context) (layout : OutputLayout) (tag : String) : String :=
  ctx.importStyle.source ((tagDir layout tag).relativeSource layout.model)

/-- The query module, which is empty if there are no query types. -/
def queryModule (ctx : Context) (layout : OutputLayout) (tag : String)
    (fs : List EmittedFunction) : Module :=
  if (queryStatements fs).isEmpty then []
  else
    importOf ctx.importStyle (queryImportsOf ctx fs) (modelSource ctx layout tag)
      ++ queryStatements fs

/-- The endpoint module. -/
def endpointModule (ctx : Context) (layout : OutputLayout) (tag : String)
    (fs : List EmittedFunction) : Module :=
  importOf ctx.importStyle (queryTypes fs) (ctx.importStyle.source querySource)
    ++ importOf ctx.importStyle (modelImportsOf ctx fs) (modelSource ctx layout tag)
    ++ fs.map fun f => .function f.function

/-- The text of an endpoint module as the settings have it. -/
def endpointText (ctx : Context) (m : Module) : Except GenerateError String :=
  match ctx.codeHook with
  | none => .ok m.text
  | some hook => (hook m.text).mapError (.render .code)

/-! ## Plans -/

/-- What is to be written for a tag. -/
structure TagPlan where
  tag : String
  queryPath : Path
  /-- The text of the query module, if there is one. -/
  query : Option String
  endpointPath : Path
  /-- The text of the endpoint module; it may fail to render after the query module is written. -/
  endpoint : Except GenerateError String
  functions : Nat

/-- The plan for a tag with the given functions. -/
def planOf (ctx : Context) (layout : OutputLayout) (tag : String) (fs : List EmittedFunction) :
    TagPlan :=
  let queries := queryModule ctx layout tag fs
  { tag := tag
    queryPath := (tagDir layout tag).join queryFile
    query := if queries.isEmpty then none else some queries.text
    endpointPath := (tagDir layout tag).join endpointFile
    endpoint := endpointText ctx (endpointModule ctx layout tag fs)
    functions := fs.length }

/-- The plan for a tag; there is none if no function is left. -/
def TagModule.plan (m : TagModule) (ctx : Context) (layout : OutputLayout)
    (modelTypes : List String) : Outcome (Option TagPlan) :=
  let o := emitFunctions ctx m.name (Names.ofModelTypes modelTypes) m.endpoints
  match o.result with
  | .error e => ⟨o.notices, .error e⟩
  | .ok [] => ⟨o.notices ++ [.emptyTag m.name], .ok none⟩
  | .ok fs => ⟨o.notices, .ok (some (planOf ctx layout m.name fs))⟩

/-- What was written for a tag. -/
structure TagOutput where
  tag : String
  endpoint : Path
  /-- The path of the query module, if it was written. -/
  query : Option Path
  functions : Nat
deriving DecidableEq, Repr

variable {m : Type → Type} [Monad m]

/-- A file of a run. -/
def writeModule (w : FileWriter m) (p : Path) (text : String) : m (Except GenerateError Unit) := do
  return (← w.write p text).mapError (.write p)

/-- The query module of a plan. That it cannot be written does not end the run. -/
def TagPlan.writeQuery (plan : TagPlan) (w : FileWriter m) : m (List Notice × Option Path) := do
  match plan.query with
  | none => return ([], none)
  | some text =>
    match ← writeModule w plan.queryPath text with
    | .ok () => return ([], some plan.queryPath)
    | .error e => return ([.unwrittenQueryModule plan.queryPath e], none)

/-- The plan carried out: the query module, then the endpoint module. -/
def TagPlan.write (plan : TagPlan) (w : FileWriter m) : m (Outcome TagOutput) := do
  let (notices, query) ← plan.writeQuery w
  match plan.endpoint with
  | .error e => return ⟨notices, .error e⟩
  | .ok text =>
    let written ← writeModule w plan.endpointPath text
    return ⟨notices, written.map fun _ => ⟨plan.tag, plan.endpointPath, query, plan.functions⟩⟩

/-- The modules of a tag, put together and written. -/
def TagModule.assemble (module : TagModule) (ctx : Context) (layout : OutputLayout)
    (modelTypes : List String) (w : FileWriter m) : m (Outcome (Option TagOutput)) := do
  let o := module.plan ctx layout modelTypes
  match o.result with
  | .error e => return ⟨o.notices, .error e⟩
  | .ok none => return ⟨o.notices, .ok none⟩
  | .ok (some plan) => return ((← plan.write w).map some).after o.notices

end TypedRequests.Request
