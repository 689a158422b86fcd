import TypedRequests.Layout
import TypedRequests.Naming
import TypedRequests.OpenApi.Document

/-!
# The context of a run

Everything a run needs besides the document is fixed before it begins.

* `CallInfo`, `CallTemplate` : how the expression of a request is written.
* `TextHook`, `Filter`, `TagPolicy` : the choices that are left to the settings.
* `Context` : all of them together.
-/

set_option autoImplicit false

namespace TypedRequests.Request

open OpenApi

/-- What a call template may use. -/
structure CallInfo where
  /-- The address: a string literal, or a template literal if there are route parameters. -/
  url : String
  method : Method
  /-- The name of the parameter with the query, if there is one. -/
  query : Option String
  /-- The name of the parameter with the body, if there is one. -/
  body : Option String
  /-- The printed type of the response. -/
  response : String
deriving DecidableEq, Repr

/-- The expression of a request, or a message why there is none. -/
abbrev CallTemplate := CallInfo → Except String String

/-- A text made from another, or a message why there is none. -/
abbrev TextHook := String → Except String String

/-- Which names pass. -/
abbrev Filter := String → Bool

/-- Only the given names pass. -/
def Filter.allowList (names : List String) : Filter := fun name => names.contains name

/-- Only names with the given beginning pass. -/
def Filter.startingWith (beginning : String) : Filter := fun name =>
  (Text.stripPrefix? beginning.toList name.toList).isSome

/-- A missing filter lets everything pass. -/
def allows (filter : Option Filter) (name : String) : Bool :=
  match filter with
  | some f => f name
  | none => true

/-- Which tag owns an operation of a path. -/
abbrev TagPolicy := PathItem → Operation → Option String

/-- The first tag of the first method owns every operation of the path. -/
def TagPolicy.firstMethod : TagPolicy := fun item _ =>
  match item.operations.entries with
  | [] => none
  | (_, o) :: _ => o.tags.head?

/-- The first tag of each operation owns it. -/
def TagPolicy.operation : TagPolicy := fun _ o => o.tags.head?

/-- The settings of a run. -/
structure Context where
  template : CallTemplate
  /-- What becomes of the text of endpoint modules. -/
  codeHook : Option TextHook
  /-- What becomes of paths. -/
  pathHook : Option TextHook
  filterTag : Option Filter
  filterEndpoint : Option Filter
  tagPolicy : TagPolicy
  importStyle : ImportStyle
  /-- Types that need no import, besides the unknown type. -/
  builtinTypes : List String

namespace Context

/-- The settings with a template and nothing else. -/
def ofTemplate (template : CallTemplate) : Context :=
  ⟨template, none, none, none, none, .firstMethod, .plain, []⟩

/-- The types that need no import, each once. -/
def builtins (ctx : Context) : List String :=
  (Naming.unknownType :: ctx.builtinTypes).eraseDups

/-- The type needs no import. -/
def isBuiltin (ctx : Context) (name : String) : Bool :=
  name == Naming.unknownType || ctx.builtinTypes.contains name

end Context

end TypedRequests.Request
