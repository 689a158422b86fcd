import TypedRequests.Readers
import TypedRequests.Request.Context

/-!
# Settings

The settings of a run are a table. The endpoints that pass are at its top; all else is in the table
`generate`.

* `ConfigError` : missing and invalid settings.
* `Settings` : the settings as they are written.
* `Settings.ofToml` : the settings of a table; the first invalid value is reported.
* `Renderer.call`, `Renderer.hook` : what becomes of the templates in them.
* `Settings.context` : the context and the layout of a run with these settings.
-/

set_option autoImplicit false

namespace TypedRequests

open Request

/-! ## Errors -/

/-- Missing and invalid settings. -/
inductive ConfigError where
  | missingTemplate
  | missingDir
  /-- The text of a template cannot be read. -/
  | invalidTemplate (key : String)
  | invalidValue (key : String) (message : String)
deriving DecidableEq, Repr

/-- The wording of an error, without what the reader of a template says of the cause. -/
def ConfigError.message : ConfigError → String
  | missingTemplate =>
    "a call-expression template is required: set `template` under [generate] to describe how a request call is written"
  | missingDir => "an output directory is required: pass --dir or set `dir` under [generate]"
  | invalidTemplate key => "invalid `" ++ key ++ "` template"
  | invalidValue key message => "invalid value for `" ++ key ++ "`: " ++ message

/-- The layout of a run, which needs a directory. -/
def OutputLayout.of (dir model : Option Path) : Except ConfigError OutputLayout :=
  match dir with
  | some dir => .ok (.inDir dir model)
  | none => .error .missingDir

/-! ## Settings as they are written -/

/-- Which tag owns an operation. -/
inductive TagRule where
  | firstMethod
  | operation
deriving DecidableEq, Repr

namespace TagRule

/-- The name of a rule. -/
def name : TagRule → String
  | firstMethod => "first-method"
  | operation => "operation"

/-- The rule with a name. -/
def ofName? (s : String) : Option TagRule :=
  [firstMethod, operation].find? fun r => r.name == s

/-- The policy of a rule. -/
def policy : TagRule → TagPolicy
  | firstMethod => TagPolicy.firstMethod
  | operation => TagPolicy.operation

end TagRule

/-- The settings of a run as they are written. -/
structure Settings where
  template : Option String
  /-- The template for the text of endpoint modules. -/
  codeHook : Option String
  /-- The template for paths. -/
  pathHook : Option String
  dir : Option Path
  model : Option Path
  importStyle : ImportStyle
  filterTag : Option (List String)
  filterEndpoint : Option (List String)
  builtinTypes : List String
  tagRule : TagRule
deriving Repr

namespace Settings

/-- The settings of an empty table. -/
def empty : Settings where
  template := none
  codeHook := none
  pathHook := none
  dir := none
  model := none
  importStyle := .plain
  filterTag := none
  filterEndpoint := none
  builtinTypes := []
  tagRule := .firstMethod

/-- The settings with another directory and another model file, where they are given. -/
def override (s : Settings) (dir model : Option Path) : Settings :=
  { s with dir := dir <|> s.dir, model := model <|> s.model }

/-! ## Reading -/

/-- A setting of a table, if it is there. Messages call it by its full name. -/
def setting {α : Type} (table : Toml) (key fullKey : String) (read : Toml → Option α)
    (expected : String) : Except ConfigError (Option α) :=
  match table.member? key with
  | none => .ok none
  | some v =>
    match read v with
    | some a => .ok (some a)
    | none => .error (.invalidValue fullKey ("expected " ++ expected))

/-- A setting in the table `generate`. -/
def generateSetting {α : Type} (table : Toml) (key : String) (read : Toml → Option α)
    (expected : String) : Except ConfigError (Option α) :=
  setting table key ("generate." ++ key) read expected

/-- A string in the table `generate`. -/
def stringSetting (table : Toml) (key : String) : Except ConfigError (Option String) :=
  generateSetting table key Toml.string? "a string"

/-- A path in the table `generate`. -/
def pathSetting (table : Toml) (key : String) : Except ConfigError (Option Path) := do
  return (← stringSetting table key).map Path.mk

/-- A truth value in the table `generate`, which is false if it is missing. -/
def boolSetting (table : Toml) (key : String) : Except ConfigError Bool := do
  return (← generateSetting table key Toml.bool? "a boolean").getD false

/-- A list of strings in the table `generate`. -/
def stringsSetting (table : Toml) (key : String) : Except ConfigError (Option (List String)) :=
  generateSetting table key Toml.strings? "an array of strings"

/-- The rule by which tags own operations. -/
def tagRuleSetting (table : Toml) : Except ConfigError TagRule := do
  match ← stringSetting table "tag-policy" with
  | none => return .firstMethod
  | some s =>
    match TagRule.ofName? s with
    | some r => return r
    | none =>
      throw (.invalidValue "generate.tag-policy"
        ("expected \"first-method\" or \"operation\", got \"" ++ s ++ "\""))

/-- The settings of the table `generate`. -/
def ofGenerate (table : Toml) (filterEndpoint : Option (List String)) :
    Except ConfigError Settings := do
  let tagRule ← tagRuleSetting table
  let template ← stringSetting table "template"
  let codeHook ← stringSetting table "output"
  let pathHook ← stringSetting table "rewrite"
  let dir ← pathSetting table "dir"
  let model ← pathSetting table "model"
  let keepExtension ← boolSetting table "allow-importing-ts-extensions"
  let typeOnly ← boolSetting table "verbatim-module-syntax"
  let filterTag ← stringsSetting table "filter-tag"
  let builtinTypes ← stringsSetting table "builtin-types"
  return {
    template, codeHook, pathHook, dir, model, filterTag, filterEndpoint, tagRule
    importStyle := ⟨keepExtension, typeOnly⟩
    builtinTypes := builtinTypes.getD [] }

/-- The settings of a table; the first invalid value is reported. -/
def ofToml (v : Toml) : Except ConfigError Settings := do
  let filterEndpoint ← setting v "filter-endpoint" "filter-endpoint" Toml.strings?
    "an array of strings"
  match v.member? "generate" with
  | none => return { empty with filterEndpoint }
  | some table =>
    if table.isTable then ofGenerate table filterEndpoint
    else throw (.invalidValue "generate" "expected a table")

end Settings

/-! ## Templates -/

/-- The template of a setting. -/
def Readers.templateOf (readers : Readers) (key text : String) : Except ConfigError Renderer :=
  match readers.template? key text with
  | some r => .ok r
  | none => .error (.invalidTemplate key)

/-- A template as the expression of a request. The query and the body are there only if the request
has them. -/
def Renderer.call (r : Renderer) : CallTemplate := fun call =>
  r ([("URL", call.url), ("METHOD", call.method.name), ("RESPONSE", call.response)]
    ++ (call.query.toList.map fun q => ("QUERY", q))
    ++ call.body.toList.map fun b => ("BODY", b))

/-- A template that makes a text from another, which it knows by a name. -/
def Renderer.hook (r : Renderer) (name : String) : TextHook := fun text =>
  r [(name, text)]

/-! ## Contexts -/

namespace Settings

/-- The name by which the template of a setting knows the text of an endpoint module. -/
def codeVariable : String := "code"

/-- The name by which the template of a setting knows a path. -/
def pathVariable : String := "path"

/-- A hook of the settings. -/
def hook (readers : Readers) (key name : String) :
    Option String → Except ConfigError (Option TextHook)
  | none => .ok none
  | some text => (readers.templateOf key text).map fun r => some (r.hook name)

/-- The context and the layout of a run with these settings. -/
def context (readers : Readers) (s : Settings) : Except ConfigError (Context × OutputLayout) := do
  let some text := s.template | throw .missingTemplate
  let template ← readers.templateOf "template" text
  let codeHook ← hook readers "output" codeVariable s.codeHook
  let pathHook ← hook readers "rewrite" pathVariable s.pathHook
  let layout ← OutputLayout.of s.dir s.model
  return ({
    template := template.call
    codeHook, pathHook
    filterTag := s.filterTag.map Filter.allowList
    filterEndpoint := s.filterEndpoint.map Filter.allowList
    tagPolicy := s.tagRule.policy
    importStyle := s.importStyle
    builtinTypes := s.builtinTypes }, layout)

end Settings

end TypedRequests
