/-!
# Methods of requests

The eight methods an operation can be declared for, and their names in a document.
-/

set_option autoImplicit false

namespace TypedRequests.OpenApi

/-- The method of a request. -/
inductive Method where
  | get
  | put
  | post
  | delete
  | options
  | head
  | patch
  | trace
deriving DecidableEq, Repr

/-- Every method. -/
def Method.all : List Method :=
  [.get, .put, .post, .delete, .options, .head, .patch, .trace]

/-- The name of a method, as a path item declares it. -/
def Method.name : Method → String
  | .get => "get"
  | .put => "put"
  | .post => "post"
  | .delete => "delete"
  | .options => "options"
  | .head => "head"
  | .patch => "patch"
  | .trace => "trace"

/-- The name of a method in capitals. -/
def Method.capitalName : Method → String
  | .get => "GET"
  | .put => "PUT"
  | .post => "POST"
  | .delete => "DELETE"
  | .options => "OPTIONS"
  | .head => "HEAD"
  | .patch => "PATCH"
  | .trace => "TRACE"

/-- The method of a given name. -/
def Method.ofName? (name : String) : Option Method :=
  Method.all.find? fun m => m.name == name

theorem Method.ofName?_name (m : Method) : Method.ofName? m.name = some m := by
  cases m <;> decide

theorem Method.ofName?_eq_some {name : String} {m : Method} (h : Method.ofName? name = some m) :
    m.name = name := by
  simpa using List.find?_some h

end TypedRequests.OpenApi
