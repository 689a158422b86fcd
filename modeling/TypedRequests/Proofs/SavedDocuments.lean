import TypedRequests.Proofs.DataNumbers
import TypedRequests.Source

/-!
# Documents that are saved as JSON text

The value of a text can be saved as JSON text, and the document be loaded from there.

* `Node.All.survives` : only floating-point numbers in data may not be read as they are printed.
* `Source.data?` : the data of a text from a location.
* `Document.JsonLike` : data of YAML text that could be data of JSON text.
* `Document.ofJsonText_pretty` : the document of the printed value.
* `Source.document_saved` : the saved document is the document of the text.
* `Source.saved_version_lost` : a document that cannot be loaded from where it is saved.
-/

set_option autoImplicit false

namespace TypedRequests

open Node OpenApi

/-! ## Scalars in data -/

namespace Node

/-- **All scalars in data survive if its floating-point numbers do**: constants, texts and integers
of 64 bits always do. -/
theorem All.survives {n : Node} (hfits : n.All Leaf.NumbersFit)
    (hreals : ∀ x, .real x ∈ n.scalars → (Scalar.real x).Survives) :
    ∀ s ∈ n.scalars, s.Survives := by
  intro s hs
  cases s with
  | null => exact Scalar.survives_null
  | bool b => exact Scalar.survives_bool b
  | string s => exact Scalar.survives_string s
  | integer k =>
    obtain ⟨l, hl, hvalue⟩ := hfits.exists_of_mem_scalars hs
    exact Scalar.survives_integer (hl.integer k hvalue).1
  | real x => exact hreals x hs

/-! ## Parts of bare data -/

theorem memberParts_bare (n : Node) : n.bare.memberParts = n.memberParts.map bare := by
  cases n with
  | record es =>
    rw [Node.bare, bareEntries_eq, memberParts, memberParts, List.map_map, List.map_map]
    rfl
  | _ => rfl

theorem fieldParts_bare (form : RecordForm) (field : String) (n : Node) :
    n.bare.fieldParts form field = (n.fieldParts form field).map bare := by
  cases n with
  | list ns =>
    rw [Node.bare, bareItems_eq, fieldParts, fieldParts, List.zip_map_right, List.filter_map,
      List.map_map, List.map_map]
    rfl
  | record es =>
    rw [Node.bare, bareEntries_eq, fieldParts, fieldParts, List.filter_map, List.map_map,
      List.map_map]
    simp only [Function.comp_def, Leaf.text_bareKey]
  | _ => rfl

end Node

namespace OpenApi

theorem Components.namedParts_bare (n : Node) : namedParts n.bare = (namedParts n).map bare := by
  rw [namedParts, namedParts, fieldParts_bare, List.flatMap_map, List.map_flatMap]
  simp only [memberParts_bare]

theorem Document.namedParts_bare (n : Node) : namedParts n.bare = (namedParts n).map bare := by
  rw [namedParts, namedParts, fieldParts_bare, List.flatMap_map, List.map_flatMap]
  simp only [Components.namedParts_bare]

/-! ## Printed values -/

/-- The bare data of the value could be that of JSON text with a document. -/
structure Document.JsonLike (n : Node) (v : Json) : Prop where
  hasValue : n.HasValue v
  depth : v.depth ≤ JsonReader.depthLimit
  readable : ∃ d, Document.read .jsonText n.bare = .ok d

/-- **The document of bare data is that of its printed value**, if the scalars in the data survive
and that of named parameters is plain. -/
theorem Document.ofJsonText_pretty {n : Node} {v : Json} {d : Document} (hv : n.HasValue v)
    (hdepth : v.depth ≤ JsonReader.depthLimit) (hread : Document.read .jsonText n.bare = .ok d)
    (hscalars : ∀ s ∈ n.scalars, s.Survives) (hnamed : ∀ e ∈ namedParts n, e.isPlain = true) :
    Document.ofJsonText v.pretty = .ok d := by
  have htold : n.bare.Told v :=
    ⟨hv.bare, bare_bare n, fun s hs => finite_of_survives (hscalars s (mem_scalars_of_bare hs))⟩
  have hbare : ∀ e ∈ namedParts n.bare, e.isPlain = true := by
    rw [namedParts_bare]
    exact List.forall_mem_map.2 fun e he => isPlain_bare (hnamed e he)
  have hd : Document.read .jsonText (.ofJson v) = .ok d :=
    carries_read .jsonText hbare v d htold hread
  have htext : Node.ofJsonText? v.pretty = some (.ofJson v) :=
    ofJsonText?_pretty (hv.survives hscalars) hdepth
  rw [ofJsonText, htext]
  exact mapError_eq_ok.2 hd

end OpenApi

/-! ## Fetched texts -/

namespace Source

/-- The data of a text: JSON, or else YAML if the location says so. -/
def data? (location text : String) : Option Node :=
  match Node.ofJsonText? text with
  | some n => some n
  | none => if isYaml location then Node.ofYamlText? text else none

variable {location text : String} {n : Node} {v : Json} {d : Document}

theorem data?_eq_some : data? location text = some n ↔ Node.ofJsonText? text = some n ∨
    Node.ofJsonText? text = none ∧ isYaml location = true ∧ Node.ofYamlText? text = some n := by
  unfold data?
  cases Node.ofJsonText? text <;> simp

/-- The numbers in the data of a text fit, whichever notation it has. -/
theorem numbersFit_of_data? (hn : data? location text = some n) : n.All Leaf.NumbersFit := by
  rcases data?_eq_some.1 hn with hjson | ⟨-, -, hyaml⟩
  · exact (JsonReader.legible hjson).leaves.mono fun _ hl => hl.numbersFit
  · exact (Node.made_ofYamlText? hyaml).mono fun _ hl => hl.numbersFit

/-- The value of the text is that of its data. Only for YAML there is more to ask. -/
theorem hasValue_of_value? (hn : data? location text = some n) (hv : value? location text = some v)
    (hyaml : isYaml location = true → n.HasValue v) : n.HasValue v := by
  cases hlocation : isYaml location with
  | true => exact hyaml hlocation
  | false =>
    rcases data?_eq_some.1 hn with hjson | ⟨-, hlocation', -⟩
    · have hvalue : Json.ofText? text = n.toJson? := by rw [Json.ofText?, hjson, Option.bind_some]
      rw [value?_eq, hvalue, hlocation] at hv
      cases htext : n.toJson? with
      | none => simp [htext] at hv
      | some w =>
        simp only [htext, Option.some.injEq] at hv
        exact hv ▸ htext
    · exact absurd (hlocation.symm.trans hlocation') nofun

/-- The value of data is that of the text. -/
theorem value?_of_hasValue (hn : data? location text = some n) (hvalue : n.HasValue v) :
    value? location text = some v := by
  rw [value?_eq, Json.ofText?]
  rcases data?_eq_some.1 hn with hjson | ⟨hjson, hlocation, htext⟩
  · rw [hjson, Option.bind_some, hvalue]
  · rw [hjson, Option.bind_none, htext, Option.bind_some]
    simp only [hlocation, if_true]
    exact hvalue

/-- The document of the text is that of the bare data. -/
theorem read_bare_of_document (hn : data? location text = some n)
    (hd : document location text = .ok d)
    (hnamed : ∀ e ∈ Document.namedParts n, e.isPlain = true)
    (hyaml : isYaml location = true → Document.JsonLike n v) :
    Document.read .jsonText n.bare = .ok d := by
  rw [document_eq] at hd
  rcases data?_eq_some.1 hn with hjson | ⟨hjson, hlocation, htext⟩
  · have hdocument : Document.ofJsonText text =
        (Document.read .jsonText n).mapError fun e => .parse (some e) := by
      rw [Document.ofJsonText, hjson]
    rw [(JsonReader.legible hjson).bare]
    cases hread : Document.read .jsonText n with
    | ok d' =>
      rw [hdocument, hread] at hd
      cases hd
      rfl
    | error e =>
      rw [hdocument, hread] at hd
      cases hlocation : isYaml location with
      | true =>
        obtain ⟨d', hd'⟩ := (hyaml hlocation).readable
        rw [(JsonReader.legible hjson).bare, hread] at hd'
        cases hd'
      | false =>
        rw [hlocation] at hd
        cases hd
  · have hdocument : Document.ofJsonText text = .error (.parse none) := by
      rw [Document.ofJsonText, hjson]
    rw [hdocument, Document.ofYamlText, htext] at hd
    simp only [hlocation, if_true] at hd
    obtain ⟨hvalue, -, d', hd'⟩ := hyaml hlocation
    have hagree := Document.agree_read ⟨Node.faithful_ofYamlText? htext, v, hvalue⟩ hnamed
    rw [hd', hagree d d' (mapError_eq_ok.1 hd) hd']

/-- **A document that is saved as JSON text is loaded as it was.** Floating-point numbers have to
survive, the data of named parameters has to be plain, and if the location says that the text may be
YAML, its data has to be like that of JSON text. -/
theorem document_saved (hd : document location text = .ok d) (hv : value? location text = some v)
    (hn : data? location text = some n)
    (hreals : ∀ x, .real x ∈ n.scalars → (Scalar.real x).Survives)
    (hnamed : ∀ e ∈ Document.namedParts n, e.isPlain = true)
    (hyaml : isYaml location = true → Document.JsonLike n v) (saved : String) :
    document saved v.pretty = .ok d := by
  have hvalue : n.HasValue v := hasValue_of_value? hn hv fun h => (hyaml h).hasValue
  have hread := read_bare_of_document hn hd hnamed hyaml
  have hdepth : v.depth ≤ JsonReader.depthLimit := by
    rcases data?_eq_some.1 hn with hjson | ⟨-, hlocation, -⟩
    · exact (JsonReader.legible hjson).depth v hvalue
    · exact (hyaml hlocation).depth
  have hscalars : ∀ s ∈ n.scalars, s.Survives := (numbersFit_of_data? hn).survives hreals
  rw [document_eq, Document.ofJsonText_pretty hvalue hdepth hread hscalars hnamed]

/-- A document with a named parameter, in YAML. -/
def petsText : String :=
  "info:\n  version: 1.0.0\ncomponents:\n  parameters:\n    limit:\n      name: limit\n"
    ++ "      in: query\n"

theorem document_saved_pets : ∃ d v, document "pets.yaml" petsText = .ok d ∧
    value? "pets.yaml" petsText = some v ∧ document "openapi.json" v.pretty = .ok d := by
  have hcheck : (data? "pets.yaml" petsText).any (fun n => n.toJson?.any fun v =>
      decide (v.depth ≤ JsonReader.depthLimit)
        && (Document.read .jsonText n.bare).toOption.isSome
        && n.scalars.all (fun s => decide s.Survives)
        && (Document.namedParts n).all isPlain) = true := by
    decide +kernel
  have hloaded : (document "pets.yaml" petsText).toOption.isSome = true := by decide +kernel
  obtain ⟨d, hd⟩ := Option.isSome_iff_exists.1 hloaded
  obtain ⟨n, hn, hcheck⟩ := (Option.any_eq_true _ _).1 hcheck
  obtain ⟨v, hvalue, hcheck⟩ := (Option.any_eq_true _ _).1 hcheck
  simp only [Bool.and_eq_true, decide_eq_true_eq, List.all_eq_true] at hcheck
  obtain ⟨⟨⟨hdepth, hread⟩, hscalars⟩, hnamed⟩ := hcheck
  obtain ⟨d', hd'⟩ := Option.isSome_iff_exists.1 hread
  have hv : value? "pets.yaml" petsText = some v := value?_of_hasValue hn hvalue
  exact ⟨d, v, eq_ok_of_toOption hd, hv, document_saved (eq_ok_of_toOption hd) hv hn
    (fun x hx => hscalars (.real x) hx) hnamed
    (fun _ => ⟨hvalue, hdepth, d', eq_ok_of_toOption hd'⟩) "openapi.json"⟩

/-- A document whose version is the text of a number, in YAML. -/
def versionText : String :=
  "info:\n  version: 1.0\npaths:\n  /pets:\n    summary: All pets\n"

/-- **The version is saved as a number**, with which no document can be loaded. -/
theorem saved_version_lost : ∃ d v, document "openapi.yaml" versionText = .ok d ∧
    value? "openapi.yaml" versionText = some v ∧
    ∀ d', document "openapi.json" v.pretty ≠ .ok d' := by
  have hloaded : (document "openapi.yaml" versionText).toOption.isSome = true := by decide +kernel
  have hsaved : (value? "openapi.yaml" versionText).any (fun v =>
      (document "openapi.json" v.pretty).toOption.isNone) = true := by
    decide +kernel
  obtain ⟨d, hd⟩ := Option.isSome_iff_exists.1 hloaded
  obtain ⟨v, hv, hlost⟩ := (Option.any_eq_true _ _).1 hsaved
  refine ⟨d, v, eq_ok_of_toOption hd, hv, fun d' hd' => ?_⟩
  rw [hd'] at hlost
  cases hlost

end Source

end TypedRequests
