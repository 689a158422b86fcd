import TypedRequests.Config.Settings
import TypedRequests.Proofs.NamesOnly
import TypedRequests.Proofs.ParameterEntries
import TypedRequests.Proofs.Undocumented

/-!
# Unused entries of parameter lists

An entry of a parameter list that stands for no parameter, or for one that is neither in the path
nor in the query, has no effect on what a run writes.

* `Document.withoutUnused` : a document without these entries.
* `parametersAt_mergeParameters` : parameters in different places do not meet.
* `extract_withoutUnused` : the document has the same modules without them.
* `generate_withoutUnused` : runs write the same, whatever the writer is.
* `Context.KeepsTags` : operations have the same tags without them.
* `bad_parameters_contained` : one bad parameter does no harm to the rest of a document.
* `bad_parameters_escape` : strings that are no text, and tag policies that count parameters.
-/

set_option autoImplicit false

namespace TypedRequests

open OpenApi

/-! ## Documents without unused entries -/

namespace OpenApi

/-- Parameters at the location are arguments of functions. -/
def Location.isArgument : Location → Bool
  | .path | .query => true
  | _ => false

namespace Document

variable (d : Document)

/-- The entry stands for a parameter that is an argument. -/
def uses (entry : ParameterEntry) : Bool :=
  (d.parameter? entry).any fun p => p.location.isArgument

end Document

/-- The operation without entries that are not used. -/
def Operation.withoutUnused (d : Document) (o : Operation) : Operation :=
  { o with parameters := o.parameters.filter d.uses }

/-- The path item without entries that are not used. -/
def PathItem.withoutUnused (d : Document) (item : PathItem) : PathItem :=
  ⟨item.operations.mapValues (Operation.withoutUnused d), item.parameters.filter d.uses⟩

/-- The document without entries of parameter lists that are not used. -/
def Document.withoutUnused (d : Document) : Document :=
  { d with paths := d.paths.mapValues (PathItem.withoutUnused d) }

end OpenApi

namespace Request

/-! ## Merged parameters -/

/-- **Parameters at different locations do not meet**: those that are no arguments take no place. -/
theorem parametersAt_mergeParameters {location : Location} (h : location.isArgument = true)
    (ps : List Parameter) :
    Endpoint.parametersAt location (mergeParameters (ps.filter fun p => p.location.isArgument)) =
      Endpoint.parametersAt location (mergeParameters ps) := by
  have hlocation : ∀ p q : Parameter, sameParameter p q = true →
      (p.location == location) = (q.location == location) := by
    intro p q hsame
    simp only [sameParameter, Bool.and_eq_true, beq_iff_eq] at hsame
    rw [hsame.2]
  unfold Endpoint.parametersAt
  rw [filter_mergeParameters hlocation, filter_mergeParameters hlocation, List.filter_filter]
  refine congrArg mergeParameters (List.filter_congr fun p _ => ?_)
  by_cases hp : p.location = location
  · simp [hp, h]
  · simp [hp]

/-! ## Operations -/

variable {d : Document} {ctx : Context}

theorem parameter?_withoutUnused (d : Document) : d.withoutUnused.parameter? = d.parameter? :=
  Document.parameter?_congr rfl

/-- The arguments among the parameters are those of the entries that are used. -/
theorem filterMap_uses (d : Document) (es : List ParameterEntry) :
    (es.filter d.uses).filterMap d.parameter? =
      (es.filterMap d.parameter?).filter fun p => p.location.isArgument := by
  induction es with
  | nil => rfl
  | cons e es ih =>
    cases hp : d.parameter? e with
    | none => simp [Document.uses, hp, ih]
    | some p => cases ha : p.location.isArgument <;> simp [Document.uses, hp, ha, ih]

theorem entriesOf_withoutUnused (d : Document) (item : PathItem) (o : Operation) :
    entriesOf (item.withoutUnused d) (o.withoutUnused d) = (entriesOf item o).filter d.uses :=
  (List.filter_append ..).symm

/-- **The operation has the same endpoint** without the entries that are not used. -/
theorem ofOperation_withoutUnused (d : Document) (path : String) (m : Method) (item : PathItem)
    (o : Operation) :
    Endpoint.ofOperation d.withoutUnused path m (item.withoutUnused d) (o.withoutUnused d) =
      Endpoint.ofOperation d path m item o := by
  unfold Endpoint.ofOperation
  simp only [parameter?_withoutUnused, entriesOf_withoutUnused, filterMap_uses]
  rw [@parametersAt_mergeParameters .path rfl, @parametersAt_mergeParameters .query rfl]
  rfl

/-- All entries that are left stand for parameters. -/
theorem notices_withoutUnused (d : Document) (path : String) (m : Method) (item : PathItem)
    (o : Operation) :
    Endpoint.notices d.withoutUnused path m (item.withoutUnused d) (o.withoutUnused d) = [] := by
  unfold Endpoint.notices
  rw [parameter?_withoutUnused, entriesOf_withoutUnused, List.filter_filter, List.map_eq_nil_iff,
    List.filter_eq_nil_iff]
  intro e _
  cases hp : d.parameter? e <;> simp [Document.uses, hp]

/-! ## Extraction -/

/-- The notice tells of an entry that stands for no parameter. -/
def Notice.isUnresolvable : Notice → Bool
  | .unresolvableParameter .. => true
  | _ => false

/-- The operation without unused entries, where it stands. -/
def PlacedOperation.withoutUnused (d : Document) (p : PlacedOperation) : PlacedOperation :=
  ⟨p.path, p.item.withoutUnused d, p.method, p.operation.withoutUnused d⟩

theorem usablePaths_withoutUnused (d : Document) :
    usablePaths d.withoutUnused = (usablePaths d).map fun e => (e.1, e.2.withoutUnused d) := by
  unfold usablePaths
  rw [Document.withoutUnused, OrderedMap.mapValues, List.filter_map]
  rfl

theorem selectedOperations_withoutUnused (d : Document) (ctx : Context) :
    selectedOperations d.withoutUnused ctx =
      (selectedOperations d ctx).map (PlacedOperation.withoutUnused d) := by
  unfold selectedOperations
  rw [usablePaths_withoutUnused, List.filter_map, List.flatMap_map, List.map_flatMap]
  refine congrArg (List.flatMap · _) (funext fun e => ?_)
  rw [PathItem.withoutUnused, OrderedMap.mapValues, List.map_map, List.map_map]
  rfl

/-- The extraction without notices of entries that stand for no parameter. -/
def Extraction.withoutUnresolvable (x : Extraction) : Extraction :=
  ⟨x.registry, x.notices.filter fun n => !n.isUnresolvable⟩

theorem filter_notices (d : Document) (path : String) (m : Method) (item : PathItem)
    (o : Operation) :
    (Endpoint.notices d path m item o).filter (fun n => !n.isUnresolvable) = [] := by
  unfold Endpoint.notices
  rw [List.filter_eq_nil_iff]
  intro n hn
  obtain ⟨e, -, rfl⟩ := List.mem_map.1 hn
  exact Bool.not_eq_true _ ▸ rfl

/-- Every operation keeps its tag when unused entries are left out. -/
def Context.KeepsTags (ctx : Context) (d : Document) : Prop :=
  ∀ p ∈ selectedOperations d ctx, (p.withoutUnused d).tag? ctx = p.tag? ctx

/-- The policies of the settings look at tags only. -/
theorem keepsTags_of_policy {rule : TagRule} (h : ctx.tagPolicy = rule.policy) (d : Document) :
    ctx.KeepsTags d := by
  intro p _
  unfold PlacedOperation.tag?
  rw [h]
  cases rule with
  | operation => rfl
  | firstMethod =>
    obtain ⟨path, ⟨⟨entries, hentries⟩, parameters⟩, method, operation⟩ := p
    cases entries <;> rfl

/-- One operation is extracted alike, but for the notices on its entries. -/
theorem step_withoutUnused {p : PlacedOperation} (htag : (p.withoutUnused d).tag? ctx = p.tag? ctx)
    (x : Extraction) : x.withoutUnresolvable.step d.withoutUnused ctx (p.withoutUnused d) =
      (x.step d ctx p).withoutUnresolvable := by
  have hendpoint : (p.withoutUnused d).endpoint d.withoutUnused = p.endpoint d :=
    ofOperation_withoutUnused d p.path p.method p.item p.operation
  have hnotices := notices_withoutUnused d p.path p.method p.item p.operation
  have htags : d.withoutUnused.tags = d.tags := rfl
  unfold Extraction.step
  rw [htag, htags]
  cases p.tag? ctx with
  | none => simp [Extraction.withoutUnresolvable, PlacedOperation.withoutUnused,
      Notice.isUnresolvable]
  | some tag =>
    simp only [Extraction.withoutUnresolvable, hendpoint]
    split
    · simp [PlacedOperation.withoutUnused, Notice.isUnresolvable]
    · rw [List.filter_append, filter_notices]
      simp [PlacedOperation.withoutUnused, hnotices]

theorem run_withoutUnused {ps : List PlacedOperation}
    (h : ∀ p ∈ ps, (p.withoutUnused d).tag? ctx = p.tag? ctx) (x : Extraction) :
    (ps.map (PlacedOperation.withoutUnused d)).foldl (Extraction.step d.withoutUnused ctx)
        x.withoutUnresolvable =
      (ps.foldl (Extraction.step d ctx) x).withoutUnresolvable := by
  induction ps generalizing x with
  | nil => rfl
  | cons p ps ih =>
    obtain ⟨hp, hps⟩ := List.forall_mem_cons.1 h
    rw [List.map_cons, List.foldl_cons, List.foldl_cons, step_withoutUnused hp, ih hps]

/-- **The document has the same modules without its unused entries**, and the same notices but for
those on such entries. -/
theorem extract_withoutUnused (h : ctx.KeepsTags d) :
    (extract d.withoutUnused ctx).result = (extract d ctx).result ∧
      (extract d.withoutUnused ctx).notices =
        (extract d ctx).notices.filter fun n => !n.isUnresolvable := by
  have hstart : Extraction.start d.withoutUnused = (Extraction.start d).withoutUnresolvable := rfl
  unfold extract
  rw [usablePaths_withoutUnused, selectedOperations_withoutUnused, hstart, run_withoutUnused h,
    List.isEmpty_map]
  split
  · exact ⟨rfl, rfl⟩
  · exact ⟨rfl, rfl⟩

/-! ## Runs -/

section Writer

variable {f : Type → Type} [Monad f] [LawfulMonad f]

/-- The modules of tags are written alike, whatever the writer is. -/
theorem writeTags_withoutUnused (h : ctx.KeepsTags d) (layout : OutputLayout) (w : FileWriter f) :
    Outcome.result <$> writeTags d.withoutUnused ctx layout w =
      Outcome.result <$> writeTags d ctx layout w := by
  have htypes : modelTypeNames d.withoutUnused = modelTypeNames d := rfl
  unfold writeTags
  cases hresult : (extract d ctx).result with
  | error e => simp [(extract_withoutUnused h).1, hresult]
  | ok modules => simp [(extract_withoutUnused h).1, hresult, htypes, Outcome.after]

/-- What a run reports of the modules of tags is all that it needs of them. -/
theorem result_report (d : Document) (ctx : Context) (layout : OutputLayout) (w : FileWriter f)
    (path : Option Path) (notices : List Notice) :
    Outcome.result <$>
        (do return ((← writeTags d ctx layout w).map (Report.mk path)).after notices) =
      Except.map (Report.mk path) <$> Outcome.result <$> writeTags d ctx layout w := by
  simp [Outcome.after, Outcome.map]

/-- **Runs write and report the same without unused entries**, whatever the writer is. -/
theorem generate_withoutUnused (h : ctx.KeepsTags d) (layout : OutputLayout) (w : FileWriter f) :
    Outcome.result <$> generate d.withoutUnused ctx layout w =
      Outcome.result <$> generate d ctx layout w := by
  have hmodel : writeModelOfRun d.withoutUnused layout.model w =
      writeModelOfRun d layout.model w := rfl
  unfold generate
  rw [hmodel, map_bind, map_bind]
  refine congrArg _ (funext fun emptied => ?_)
  cases emptied with
  | error e => rfl
  | ok u =>
    simp only [map_bind]
    refine congrArg _ (funext fun model => ?_)
    cases model.result with
    | error e => rfl
    | ok path => rw [result_report, result_report, writeTags_withoutUnused h]

end Writer

/-- **One bad parameter does no harm to the rest of a document.** With any other value in the place
of an entry of a parameter list, a document is read as before, but for this entry. Take away the
entries that stand for no parameter, or for one that is neither in the path nor in the query: if the
tag policy still gives each operation the same tag, the document has the same modules, and every run
reports the same and writes the same files. Both policies of the settings do so. -/
theorem bad_parameters_contained :
    (∀ {text text' : String} {n n' e : Node} {place : EntryPlace} {steps : List NodeStep}
        {d : Document}, Node.ofJsonText? text = some n → Node.ofJsonText? text' = some n' →
      place.Leads steps → Node.Replaced e steps n n' → e.toJson?.isSome = true →
        Document.ofJsonText text = .ok d →
          ∃ entry, Document.ofJsonText text' = .ok d ∨
            Document.ofJsonText text' = .ok (d.withEntry place entry)) ∧
    (∀ {d : Document} {ctx : Context}, ctx.KeepsTags d →
      (extract d.withoutUnused ctx).result = (extract d ctx).result ∧
        ∀ (layout : OutputLayout) (σ : Type) (w : FileWriter (StateM σ)) (s : σ),
          (generate d.withoutUnused ctx layout w s).1.result =
              (generate d ctx layout w s).1.result ∧
            (generate d.withoutUnused ctx layout w s).2 = (generate d ctx layout w s).2) ∧
    ∀ {ctx : Context} {rule : TagRule}, ctx.tagPolicy = rule.policy →
      ∀ d : Document, ctx.KeepsTags d := by
  refine ⟨?_, fun {d ctx} h => ⟨(extract_withoutUnused h).1, ?_⟩, keepsTags_of_policy⟩
  · intro text text' n n' e place steps d hn hn' hlead hreplaced he hd
    obtain ⟨w, hw⟩ := Option.isSome_iff_exists.1 he
    obtain ⟨entry, hentry⟩ := exists_readParameterEntry (Node.isSome_toJson?_ofJson w)
    have hread : ∀ {text n}, Node.ofJsonText? text = some n → ∀ {d'},
        Document.ofJsonText text = .ok d' ↔ Document.read .jsonText n = .ok d' := by
      intro text n hn d'
      unfold Document.ofJsonText
      rw [hn]
      exact mapError_eq_ok
    exact ⟨entry, (Document.read_replaced hlead hw hentry hreplaced ((hread hn).1 hd)).imp
      (hread hn').2 (hread hn').2⟩
  · intro layout σ w s
    have hrun : ((generate d.withoutUnused ctx layout w s).1.result,
          (generate d.withoutUnused ctx layout w s).2) =
        ((generate d ctx layout w s).1.result, (generate d ctx layout w s).2) :=
      congrFun (generate_withoutUnused h layout w) s
    exact Prod.mk.inj hrun

/-- The text of a document with one operation, with the text of the entry in its parameter list. -/
def petsText (entry : String) : String :=
  "\x7b\"paths\":\x7b\"/pets\":\x7b\"get\":\x7b\"parameters\":[" ++ entry
    ++ "]\x7d\x7d\x7d\x7d"

/-- The tokens of this text, with the token of the entry. -/
def petsTokens (entry : JsonToken) : List JsonToken :=
  [.openRecord, .string (some "paths"), .colon, .openRecord, .string (some "/pets"), .colon,
    .openRecord, .string (some "get"), .colon, .openRecord, .string (some "parameters"), .colon,
    .openList, entry, .closeList, .closeRecord, .closeRecord, .closeRecord, .closeRecord]

/-- The data of this text, with the data of the entry. -/
def petsNode (entry : Node) : Node :=
  .record [(.string "paths", .record [(.string "/pets", .record [(.string "get",
    .record [(.string "parameters", .list [entry])])])])]

theorem replaced_petsNode (e e' : Node) :
    Node.Replaced e' [.key "paths", .key "/pets", .key "get", .key "parameters", .index 0]
      (petsNode e) (petsNode e') :=
  @Node.Replaced.member e' _ [] [] _ _ _ (@Node.Replaced.member e' _ [] [] _ _ _
    (@Node.Replaced.member e' _ [] [] _ _ _ (@Node.Replaced.member e' _ [] [] _ _ _
      (@Node.Replaced.item e' _ [] [] e e' .here))))

theorem ofJsonText?_petsText {text : String} {t : JsonToken} {e : Node}
    (hts : JsonToken.scan (petsText text).toList = some (petsTokens t))
    (he : JsonReader.ofTokens? (petsTokens t) = some (petsNode e)) :
    Node.ofJsonText? (petsText text) = some (petsNode e) := by
  rw [Node.ofJsonText?, hts]
  exact he

theorem bad_parameters_contained_pets : ∃ d,
    Document.ofJsonText (petsText "\"id\"") = .ok d ∧
      (∃ entry, Document.ofJsonText (petsText "1") = .ok d ∨
        Document.ofJsonText (petsText "1") = .ok (d.withEntry ⟨"/pets", some .get, 0⟩ entry)) ∧
      (extract d.withoutUnused (.ofTemplate fun _ => .ok "")).result =
        (extract d (.ofTemplate fun _ => .ok "")).result := by
  have hn : Node.ofJsonText? (petsText "\"id\"") = some (petsNode (.leaf (.string "id"))) :=
    ofJsonText?_petsText (t := .string (some "id")) (by decide +kernel) rfl
  have hn' : Node.ofJsonText? (petsText "1") = some (petsNode (.leaf ⟨none, some (.integer 1)⟩)) :=
    ofJsonText?_petsText (t := .integer ⟨false, [1], [], 0⟩) (by decide +kernel) rfl
  obtain ⟨d, hd⟩ : ∃ d, Document.ofJsonText (petsText "\"id\"") = .ok d := by
    unfold Document.ofJsonText
    rw [hn]
    exact ⟨_, rfl⟩
  have hlead : EntryPlace.Leads ⟨"/pets", some .get, 0⟩
      [.key "paths", .key "/pets", .key "get", .key "parameters", .index 0] :=
    .intro (.inl rfl) (.own (.inl rfl))
  obtain ⟨hreplaced, hunused, hkeeps⟩ := bad_parameters_contained
  exact ⟨d, hd, hreplaced hn hn' hlead (replaced_petsNode ..) rfl hd,
    (hunused (@hkeeps (.ofTemplate fun _ => .ok "") .firstMethod rfl d)).1⟩

/-- Only operations without parameters have a tag. -/
def bareOperationTag : TagPolicy := fun _ o =>
  if o.parameters.isEmpty then o.tags.head? else none

/-- The text of a document with a tagged operation and an entry that stands for no parameter. -/
def taggedText : String :=
  "\x7b\"paths\":\x7b\"/pets\":\x7b\"get\":\x7b\"tags\":[\"pets\"],\"parameters\":[1]"
    ++ "\x7d\x7d\x7d\x7d"

/-- The names of the modules of a document. -/
def moduleNames? (d : Document) (policy : TagPolicy) : Option (List String) :=
  let ctx : Context := { Context.ofTemplate (fun _ => .ok "") with tagPolicy := policy }
  ((extract d ctx).result.toOption).map fun modules => modules.map TagModule.name

/-- **Not every value will do, nor every tag policy.** A string with half of a surrogate pair is no
text, and with it a document cannot be read. A policy that looks at the parameters may give an
operation a tag only without the unused entries, which makes another module. -/
theorem bad_parameters_escape :
    ((∃ d, Document.ofJsonText (petsText "\"id\"") = .ok d) ∧
      ∀ d, Document.ofJsonText (petsText "\"\\ud800\"") ≠ .ok d) ∧
    ∃ d, Document.ofJsonText taggedText = .ok d ∧ moduleNames? d bareOperationTag = some [] ∧
      moduleNames? d.withoutUnused bareOperationTag = some ["pets"] := by
  have hread : (Document.ofJsonText (petsText "\"id\"")).toOption.isSome = true := by
    decide +kernel
  have hunread : (Document.ofJsonText (petsText "\"\\ud800\"")).toOption.isNone = true := by
    decide +kernel
  have hmodules : (Document.ofJsonText taggedText).toOption.any (fun d =>
      moduleNames? d bareOperationTag == some []
        && moduleNames? d.withoutUnused bareOperationTag == some ["pets"]) = true := by
    decide +kernel
  obtain ⟨d, hd⟩ := Option.isSome_iff_exists.1 hread
  obtain ⟨d', hd', hmodules⟩ := (Option.any_eq_true _ _).1 hmodules
  rw [Bool.and_eq_true, beq_iff_eq, beq_iff_eq] at hmodules
  refine ⟨⟨⟨d, eq_ok_of_toOption hd⟩, fun d hd => ?_⟩, d', eq_ok_of_toOption hd', hmodules⟩
  rw [hd] at hunread
  cases hunread

end Request

end TypedRequests
