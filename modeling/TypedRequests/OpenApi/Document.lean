import TypedRequests.OpenApi.Method
import TypedRequests.OpenApi.Schema
import TypedRequests.Reading
import TypedRequests.Text.Blank
import TypedRequests.Text.Replace

/-!
# Documents

* `Document` and its parts : paths with operations, components, and the registry of tags.
* `Payload.jsonSchema?` : the schema of the JSON content of a body.
* `Document.search`, `Document.parameter?` : the parameter that an entry of a parameter list stands
  for, over any number of references.
* `Document.schemas?` : the named schemas.
* `DocumentError` : what can be wrong with a document.
-/

set_option autoImplicit false

namespace TypedRequests.OpenApi

/-- The title and version of a document. -/
structure Info where
  title : String
  version : String
deriving DecidableEq, Repr

/-- A registered tag. -/
structure Tag where
  name : String
  description : String
deriving DecidableEq, Repr

/-- Where a parameter is carried. -/
inductive Location where
  | path
  | query
  | header
  | cookie
  | other
deriving DecidableEq, Repr

/-- A parameter of an operation. -/
structure Parameter where
  name : String
  location : Location
  description : Option String
  required : Bool
  schema : Option Schema
deriving Repr

/-- An entry of a parameter list: a parameter, the name of one elsewhere, or something else, which
is kept so that it does no harm. -/
inductive ParameterEntry where
  | reference (target : String)
  | inline (p : Parameter)
  | malformed (v : Json)
deriving Repr

/-- The content of one media type. -/
structure MediaType where
  schema : Option Schema
deriving Repr

/-- A request body or a response: its content by media type. -/
structure Payload where
  description : Option String
  content : OrderedMap String MediaType

/-- An operation. -/
structure Operation where
  tags : List String
  summary : Option String
  description : Option String
  parameters : List ParameterEntry
  requestBody : Option Payload
  responses : OrderedMap String Payload

/-- The operations of a path, in declared order, and the parameters they share. -/
structure PathItem where
  operations : OrderedMap Method Operation
  parameters : List ParameterEntry

/-- What the document names for use elsewhere. -/
structure Components where
  schemas : Option (OrderedMap String Schema)
  parameters : OrderedMap String ParameterEntry

/-- A document. -/
structure Document where
  version : Option String
  info : Option Info
  paths : OrderedMap String PathItem
  components : Option Components
  tags : Option (List Tag)

/-- The document that says nothing. -/
def Document.empty : Document :=
  ⟨none, none, .empty, none, none⟩

/-! ## Content -/

/-- An ASCII letter in lower case, other characters as they are. -/
def asciiLower (cs : List Char) : List Char :=
  cs.map Char.toLower

/-- A media type without its parameters. -/
def mediaEssence (media : String) : List Char :=
  Text.trim (media.toList.takeWhile (· ≠ ';'))

/-- The media type is JSON, by its name or by its suffix. -/
def isJsonMedia (media : String) : Bool :=
  asciiLower (mediaEssence media) == "application/json".toList ||
    (Text.stripSuffix? "+json".toList (mediaEssence media)).isSome

/-- The schema of the first JSON content. -/
def Payload.jsonSchema? (p : Payload) : Option Schema :=
  match p.content.entries.find? fun e => isJsonMedia e.1 with
  | some (_, media) => media.schema
  | none => none

/-! ## Components -/

namespace Document

/-- The named schemas, if there are any. -/
def schemas? (d : Document) : Option (OrderedMap String Schema) :=
  match d.components with
  | none => none
  | some c => c.schemas.filter fun m => !m.isEmpty

/-- The named parameters. -/
def namedParameters (d : Document) : List (String × ParameterEntry) :=
  match d.components with
  | none => []
  | some c => c.parameters.entries

/-- What a reference to a named parameter begins with. -/
def parameterPrefix : String := "#/components/parameters/"

/-- The entry a reference leads to. -/
def target? (d : Document) (reference : String) : Option ParameterEntry :=
  match Text.stripPrefix? parameterPrefix.toList reference.toList with
  | some name => Entries.find? (String.ofList name) d.namedParameters
  | none => none

/-- The references to the named parameters. -/
def parameterReferences (d : Document) : List String :=
  d.namedParameters.map fun e => parameterPrefix ++ e.1

/-- The references to named parameters that were not followed yet. -/
def unfollowed (d : Document) (followed : List String) : List String :=
  d.parameterReferences.filter fun r => !followed.contains r

theorem eq_of_stripPrefix? {r : String} {name : List Char}
    (h : Text.stripPrefix? parameterPrefix.toList r.toList = some name) :
    r = parameterPrefix ++ String.ofList name := by
  rw [← String.toList_inj, String.toList_append, String.toList_ofList]
  exact Text.stripPrefix?_eq_some_iff.1 h

theorem mem_parameterReferences_of_target? {d : Document} {r : String} {entry : ParameterEntry}
    (h : d.target? r = some entry) : r ∈ d.parameterReferences := by
  unfold target? at h
  split at h
  · rename_i name hname
    have hkey : String.ofList name ∈ Entries.keys d.namedParameters :=
      Entries.isSome_find?_iff.1 (Option.isSome_of_eq_some h)
    obtain ⟨e, he, hkey⟩ := List.mem_map.1 hkey
    rw [eq_of_stripPrefix? hname, ← hkey]
    exact List.mem_map_of_mem he
  · cases h

/-- A reference that is followed for the first time, to a named parameter, is one less. -/
theorem length_unfollowed_lt {d : Document} {followed : List String} {r : String}
    {entry : ParameterEntry} (hr : r ∉ followed) (h : d.target? r = some entry) :
    (d.unfollowed (r :: followed)).length < (d.unfollowed followed).length := by
  have hcons : d.unfollowed (r :: followed) =
      (d.unfollowed followed).filter fun r' => r' ≠ r := by
    unfold unfollowed
    rw [List.filter_filter]
    exact List.filter_congr fun r' _ => by simp
  have hmem : r ∈ d.unfollowed followed :=
    List.mem_filter.2 ⟨mem_parameterReferences_of_target? h, by simpa using hr⟩
  rw [hcons]
  exact List.length_filter_lt_length_iff_exists.2 ⟨r, hmem, by simp⟩

/-- How a search for a parameter ends: with what is found, and with the references that were
followed, the last one first. -/
structure Search where
  found : Option Parameter
  followed : List String

/-- The search for the parameter of an entry, to which the followed references have led. It ends at
a parameter, at what is none, and at a reference that leads nowhere or was followed before. -/
def search (d : Document) (followed : List String) : ParameterEntry → Search
  | .inline p => ⟨some p, followed⟩
  | .malformed _ => ⟨none, followed⟩
  | .reference r =>
    if _hnew : r ∈ followed then ⟨none, followed⟩
    else
      match _htarget : d.target? r with
      | none => ⟨none, r :: followed⟩
      | some entry => d.search (r :: followed) entry
termination_by (d.unfollowed followed).length
decreasing_by exact length_unfollowed_lt _hnew _htarget

theorem search_reference (d : Document) (followed : List String) (r : String) :
    d.search followed (.reference r) =
      if r ∈ followed then ⟨none, followed⟩
      else
        match d.target? r with
        | none => ⟨none, r :: followed⟩
        | some entry => d.search (r :: followed) entry := by
  rw [search]
  by_cases h : r ∈ followed
  · rw [dif_pos h, if_pos h]
  · rw [dif_neg h, if_neg h]
    split <;> simp only [*]

/-- The parameter an entry stands for. -/
def parameter? (d : Document) (entry : ParameterEntry) : Option Parameter :=
  (d.search [] entry).found

end Document

/-! ## Errors -/

/-- What is wrong with a document. -/
inductive DocumentError where
  /-- The text is no data at all, or not the data of a document. -/
  | parse (cause : Option ReadError)
  | noPaths
  | noSchemas
deriving DecidableEq, Repr

/-- The wording of an error. -/
def DocumentError.message : DocumentError → String
  | parse cause =>
    "failed to parse OpenAPI document: " ++ (cause.elim "malformed text" ReadError.message)
  | noPaths => "the document declares no usable paths"
  | noSchemas => "the document declares no schema components"

end TypedRequests.OpenApi
