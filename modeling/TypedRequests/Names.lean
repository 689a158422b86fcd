import TypedRequests.Text.Words

/-!
# Distinct names

Functions of one module get distinct names, and so do their query types, which also differ from the
types of the model module.

* `numbered` : a name with the least number from 2 on that makes it free.
* `Names.claim`, `Names.claimType` : the names a module takes, one after the other.
* `distinctIdentifiers` : identifiers made distinct by underscores.
-/

set_option autoImplicit false

namespace TypedRequests

/-- The first free name among `stem ++ n`, `stem ++ (n + 1)`, …, after at most `steps` that are
taken. -/
def numberedFrom (taken : List String) (stem : String) (n : Nat) : Nat → String
  | 0 => stem ++ toString n
  | steps + 1 =>
    if taken.contains (stem ++ toString n) then numberedFrom taken stem (n + 1) steps
    else stem ++ toString n

/-- The name with the least number from 2 on that makes it free. There are no more taken ones than
taken names. -/
def numbered (taken : List String) (stem : String) : String :=
  numberedFrom taken stem 2 taken.length

/-- The names a module has taken: for functions, and for types. -/
structure Names where
  taken : List String
  types : List String
deriving DecidableEq, Repr

namespace Names

/-- The names of a module that imports from a model module with the given types. -/
def ofModelTypes (modelTypes : List String) : Names :=
  ⟨[], modelTypes⟩

/-- The name of a function that shares its base with others, from its route parameters. -/
def byParameters (base : String) (routeNames : List String) : String :=
  base ++ "By" ++ "And".intercalate (routeNames.map Text.pascal)

/-- The function name for a base: the base itself, else the base with the route parameters, else
with a number. -/
def functionName (names : Names) (base : String) (routeNames : List String) : String :=
  if names.taken.contains base then
    if routeNames.isEmpty then numbered names.taken base
    else
      let candidate := byParameters base routeNames
      if names.taken.contains candidate then numbered names.taken candidate else candidate
  else base

/-- The type name for a base: the base itself, else with a number. -/
def typeName (names : Names) (base : String) : String :=
  if names.types.contains base then numbered names.types base else base

/-- A function name is taken. -/
def claim (names : Names) (base : String) (routeNames : List String) : String × Names :=
  let name := names.functionName base routeNames
  (name, { names with taken := name :: names.taken })

/-- A type name is taken. -/
def claimType (names : Names) (base : String) : String × Names :=
  let name := names.typeName base
  (name, { names with types := name :: names.types })

end Names

/-! ## Identifiers -/

/-- The identifier with the fewest underscores that make it unused, after at most `steps` that are
used. -/
def underscored (used : List String) (identifier : String) : Nat → String
  | 0 => identifier
  | steps + 1 =>
    if used.contains identifier then underscored used (identifier.push '_') steps else identifier

/-- Identifiers in order, each with the fewest underscores that make it differ from the used ones
and from those before it. -/
def distinctIdentifiers (used : List String) : List String → List String
  | [] => []
  | identifier :: rest =>
    let chosen := underscored used identifier used.length
    chosen :: distinctIdentifiers (chosen :: used) rest

end TypedRequests
