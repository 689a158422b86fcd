import TypedRequests.FileWriter
import TypedRequests.OpenApi.Document
import TypedRequests.OpenApi.Schema.Typing

/-!
# What a run says

* `GenerateError` : why a run ends early.
* `Notice` : what it leaves out or cannot write, without ending.
* `Outcome` : a result with the notices before it.
-/

set_option autoImplicit false

namespace TypedRequests.Request

open OpenApi

/-! ## Errors -/

/-- What is rendered by the settings. -/
inductive Rendering where
  | call
  | code
  | path
deriving DecidableEq, Repr

/-- The name of what is rendered. -/
def Rendering.name : Rendering → String
  | call => "template"
  | code => "output"
  | path => "rewrite"

/-- Why a run ends early. -/
inductive GenerateError where
  | document (e : DocumentError)
  /-- A schema has no type; the location says where it stands. -/
  | schema (location : String) (e : SchemaError)
  | render (what : Rendering) (message : String)
  | write (path : Path) (e : FileError)
deriving DecidableEq, Repr

/-- The wording of an error. -/
def GenerateError.message : GenerateError → String
  | document e => e.message
  | schema location e => location ++ ": " ++ e.message
  | render what message => "failed to render " ++ what.name ++ ": " ++ message
  | write path e => "failed to write " ++ path.text ++ ": " ++ e.message

/-! ## Notices -/

/-- What a run leaves out or cannot write. -/
inductive Notice where
  | unresolvableParameter (path : String) (method : Method) (parameter : String)
  | untaggedOperation (path : String) (method : Method)
  | unregisteredTag (path : String) (method : Method) (tag : String)
  | skippedOperation (tag : String) (e : GenerateError)
  | emptyTag (tag : String)
  | unwrittenQueryModule (path : Path) (e : GenerateError)
  | noSchemas
  | skippedComponent (name : String) (e : SchemaError)
deriving DecidableEq, Repr

/-- How serious a notice is. -/
inductive Level where
  | warning
  | error
deriving DecidableEq, Repr

namespace Notice

/-- How serious the notice is: something that should have been written is missing, or not. -/
def level : Notice → Level
  | unwrittenQueryModule .. => .error
  | _ => .warning

/-- The wording of a notice. -/
def message : Notice → String
  | unresolvableParameter .. => "Skipping unresolvable parameter."
  | untaggedOperation .. => "Dropping operation without a tag."
  | unregisteredTag .. => "Dropping operation with unregistered tag."
  | skippedOperation .. => "Skipping operation."
  | emptyTag .. => "No operations left, skipping tag."
  | unwrittenQueryModule .. => "Failed to write query module."
  | noSchemas => "Document declares no schema components, skipping model module."
  | skippedComponent .. => "Skipping schema component."

/-- What a notice is about, by name. -/
def fields : Notice → List (String × String)
  | unresolvableParameter path method parameter =>
    [("path", path), ("method", method.name), ("parameter", parameter)]
  | untaggedOperation path method => [("path", path), ("method", method.name)]
  | unregisteredTag path method tag => [("path", path), ("method", method.name), ("tag", tag)]
  | skippedOperation tag e => [("tag", tag), ("error", e.message)]
  | emptyTag tag => [("tag", tag)]
  | unwrittenQueryModule path e => [("path", path.text), ("error", e.message)]
  | noSchemas => []
  | skippedComponent name e => [("schema", name), ("error", e.message)]

end Notice

/-- A result with the notices before it. -/
structure Outcome (α : Type) where
  notices : List Notice
  result : Except GenerateError α

namespace Outcome

/-- A result without notices. -/
def pure {α : Type} (a : α) : Outcome α :=
  ⟨[], .ok a⟩

/-- The early end of a run. -/
def fail {α : Type} (e : GenerateError) : Outcome α :=
  ⟨[], .error e⟩

/-- Notices before an outcome. -/
def after {α : Type} (notices : List Notice) (o : Outcome α) : Outcome α :=
  ⟨notices ++ o.notices, o.result⟩

/-- The same notices with another result. -/
def map {α β : Type} (f : α → β) (o : Outcome α) : Outcome β :=
  ⟨o.notices, o.result.map f⟩

end Outcome

end TypedRequests.Request
