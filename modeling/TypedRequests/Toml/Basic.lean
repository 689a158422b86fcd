import TypedRequests.Number.Binary64
import TypedRequests.OrderedMap

/-!
# TOML values

* `Toml` : strings, numbers, truth values, moments, arrays and tables.
* `Toml.member?`, `Toml.string?`, `Toml.bool?`, `Toml.strings?` : what a value is.
-/

set_option autoImplicit false

namespace TypedRequests

/-- The value of a setting, or a table of settings. -/
inductive Toml where
  | string (s : String)
  | bool (b : Bool)
  | integer (n : Int)
  | real (x : Binary64)
  /-- A date, a time of day or both, as it is written. -/
  | moment (text : String)
  | array (items : List Toml)
  | table (entries : List (String × Toml))
deriving Repr, Inhabited

namespace Toml

/-- The value of a key of a table. -/
def member? (v : Toml) (key : String) : Option Toml :=
  match v with
  | table entries => Entries.find? key entries
  | _ => none

/-- The value is a table. -/
def isTable : Toml → Bool
  | table _ => true
  | _ => false

/-- The value as a string. -/
def string? : Toml → Option String
  | string s => some s
  | _ => none

/-- The value as a truth value. -/
def bool? : Toml → Option Bool
  | bool b => some b
  | _ => none

/-- The value as an array of strings. -/
def strings? : Toml → Option (List String)
  | array items => items.mapM string?
  | _ => none

end Toml

end TypedRequests
