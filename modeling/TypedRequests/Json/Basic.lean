import TypedRequests.Number.Binary64
import TypedRequests.OrderedMap

/-!
# JSON values

* `Scalar` : the values without parts.
* `Json` : the values; the members of an object have an order and distinct names.
-/

set_option autoImplicit false

namespace TypedRequests

/-- A value without parts. Numbers written without point and exponent are integers. -/
inductive Scalar where
  | null
  | bool (b : Bool)
  | integer (n : Int)
  | real (x : Binary64)
  | string (s : String)
deriving DecidableEq, Repr

/-- A JSON value. -/
inductive Json where
  | scalar (s : Scalar)
  | array (items : List Json)
  | object (members : List (String × Json))
deriving Repr, Inhabited

namespace Json

/-- The value `null`. -/
def null : Json :=
  scalar .null

/-- A string value. -/
def string (s : String) : Json :=
  scalar (.string s)

/-- A Boolean value. -/
def bool (b : Bool) : Json :=
  scalar (.bool b)

/-- A natural number. -/
def nat (n : Nat) : Json :=
  scalar (.integer n)

/-- A member of an object. -/
def member? (name : String) : Json → Option Json
  | object members => Entries.find? name members
  | _ => none

end Json

end TypedRequests
