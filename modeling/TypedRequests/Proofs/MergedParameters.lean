import Mathlib.Data.List.Induction
import TypedRequests.Proofs.Extraction
import TypedRequests.Proofs.ParameterChains
import TypedRequests.Proofs.Parameters

/-!
# How parameters are merged

The parameters of an operation are those of its path and then its own. Each of its endpoint has the
place of the first with its name and says what the last one says, and placeholders of the path for
which there is none follow.

* `Resolves` : the parameters that entries stand for, with a notice for each that stands for none.
* `putParameter_cases`, `lastValues_mergeParameters` : one more parameter comes last or takes the
  place of an earlier one, so that the last of each name is kept.
* `MergedFrom` : what the parameters of an endpoint are, by those that the entries stand for.
* `merged_without_loss` : no parameter of an operation is lost.
-/

set_option autoImplicit false

namespace TypedRequests.Request

open OpenApi

variable {d : Document} {p : Parameter} {ps : List Parameter} {location : Location}

/-! ## Entries -/

/-- The entries stand for the parameters to which their references lead, in order, and there is a
notice for each entry that stands for none. -/
inductive Resolves (d : Document) (path : String) (method : Method) :
    List ParameterEntry → List Parameter → List Notice → Prop where
  | nil : Resolves d path method [] [] []
  | found {e : ParameterEntry} {es : List ParameterEntry} {p : Parameter} {ps : List Parameter}
      {ns : List Notice} (h : d.Chain e (.inline p)) (hs : Resolves d path method es ps ns) :
      Resolves d path method (e :: es) (p :: ps) ns
  | lost {e : ParameterEntry} {es : List ParameterEntry} {ps : List Parameter} {ns : List Notice}
      (h : ∀ p, ¬ d.Chain e (.inline p)) (hs : Resolves d path method es ps ns) :
      Resolves d path method (e :: es) ps
        (.unresolvableParameter path method (ParameterEntry.describe e) :: ns)

/-- **Entries stand for parameters one by one.** -/
theorem resolves_entries (d : Document) (path : String) (method : Method)
    (es : List ParameterEntry) :
    Resolves d path method es (es.filterMap d.parameter?)
      ((es.filter fun e => (d.parameter? e).isNone).map fun e =>
        .unresolvableParameter path method (ParameterEntry.describe e)) := by
  induction es with
  | nil => exact .nil
  | cons e es ih =>
    cases he : d.parameter? e with
    | some p =>
      rw [List.filterMap_cons_some he, List.filter_cons_of_neg (by simp [he])]
      exact .found (Document.parameter?_eq_some_iff.1 he) ih
    | none =>
      rw [List.filterMap_cons_none he, List.filter_cons_of_pos (by simp [he]), List.map_cons]
      refine .lost (fun p hp => ?_) ih
      rw [Document.parameter?_eq_some_iff.2 hp] at he
      cases he

theorem Endpoint.level_of_mem_notices {path : String} {method : Method} {item : PathItem}
    {o : Operation} : ∀ n ∈ Endpoint.notices d path method item o, n.level = .warning :=
  List.forall_mem_map.2 fun _ _ => rfl

/-! ## Merging -/

/-- One more parameter comes last, or it takes the place of the one with its name and place. -/
theorem putParameter_cases (p : Parameter) (ps : List Parameter) :
    (parameterKey p ∉ ps.map parameterKey ∧ putParameter p ps = ps ++ [p]) ∨
      ∃ before q after, ps = before ++ q :: after ∧ parameterKey q = parameterKey p ∧
        putParameter p ps = before ++ p :: after := by
  induction ps with
  | nil => exact Or.inl ⟨List.not_mem_nil, rfl⟩
  | cons q ps ih =>
    rw [putParameter]
    by_cases hq : parameterKey q = parameterKey p
    · rw [if_pos (sameParameter_iff.2 hq)]
      exact Or.inr ⟨[], q, ps, rfl, hq, rfl⟩
    · rw [if_neg (mt sameParameter_iff.1 hq)]
      rcases ih with ⟨hnew, hput⟩ | ⟨before, r, after, rfl, hr, hput⟩
      · rw [hput]
        exact Or.inl ⟨List.not_mem_cons_of_ne_of_not_mem (Ne.symm hq) hnew, rfl⟩
      · rw [hput]
        exact Or.inr ⟨q :: before, r, after, rfl, hr, rfl⟩

theorem mergeParameters_append (ps : List Parameter) (p : Parameter) :
    mergeParameters (ps ++ [p]) = putParameter p (mergeParameters ps) := by
  rw [mergeParameters, List.foldl_append]
  rfl

/-- **Of merged parameters at one place the last of each name is kept**, where the first stood. -/
theorem lastValues_mergeParameters (h : ∀ p ∈ ps, p.location = location) :
    LastValues Parameter.name ps (mergeParameters ps) := by
  -- one parameter after the other is put, so that the induction is from the end
  induction ps using List.reverseRecOn with
  | nil => exact .nil
  | append_singleton ps p ih =>
    have hps : ∀ q ∈ ps, q.location = location := fun q hq => h q (List.mem_append_left _ hq)
    have hp : p.location = location := h p (by simp)
    have hmerged : ∀ q ∈ mergeParameters ps, q.location = p.location := fun q hq =>
      (hps q (mem_of_mem_mergeParameters hq)).trans hp.symm
    rw [mergeParameters_append]
    rcases putParameter_cases p (mergeParameters ps) with ⟨hnew, hput⟩ |
      ⟨before, q, after, hsplit, hq, hput⟩
    · rw [hput]
      refine (ih hps).append_new fun hmem => hnew ?_
      obtain ⟨q, hq, hname⟩ := List.mem_map.1 hmem
      exact List.mem_map.2 ⟨q, hq, Prod.ext hname (hmerged q hq)⟩
    · rw [hput]
      have hlast := ih hps
      rw [hsplit] at hlast
      exact hlast.append_old (congrArg Prod.fst hq)

/-- The place of a parameter tells it from those at other places. -/
theorem parametersAt_mergeParameters_eq (location : Location) (ps : List Parameter) :
    Endpoint.parametersAt location (mergeParameters ps) =
      mergeParameters (Endpoint.parametersAt location ps) := by
  refine filter_mergeParameters (fun p q hsame => ?_) ps
  have hlocation : p.location = q.location := congrArg Prod.snd (sameParameter_iff.1 hsame)
  rw [hlocation]

theorem lastValues_parametersAt (location : Location) (ps : List Parameter) :
    LastValues Parameter.name (Endpoint.parametersAt location ps)
      (Endpoint.parametersAt location (mergeParameters ps)) := by
  rw [parametersAt_mergeParameters_eq]
  exact lastValues_mergeParameters fun p hp => eq_of_beq (List.mem_filter.1 hp).2

/-! ## Endpoints -/

/-- The parameters of an endpoint are merged from the given ones: those in the query, and those of
the route with the placeholders that are left. Of parameters with one name at one place the first
gives the place in the list, and the last all else. -/
structure MergedFrom (ps : List Parameter) (e : Endpoint) : Prop where
  query : ∃ merged, LastValues Parameter.name (Endpoint.parametersAt .query ps) merged ∧
    e.query = merged.map fun p => ⟨p.name, p.description, p.required, p.schema⟩
  route : ∃ merged further, LastValues Parameter.name (Endpoint.parametersAt .path ps) merged ∧
    FirstUses ((PathTemplate.ofPath e.path).placeholders.filter
      fun n => n ∉ merged.map Parameter.name) further ∧
    e.route = (merged.map fun p => ⟨p.name, p.description, p.schema⟩) ++
      further.map .undeclared

namespace MergedFrom

variable {e : Endpoint}

/-- Route parameters that are merged and those that are added have different names. -/
theorem nodup_routeNames (h : MergedFrom ps e) : e.routeNames.Nodup := by
  obtain ⟨merged, further, hmerged, hfurther, hroute⟩ := h.route
  have hnames : e.routeNames = merged.map Parameter.name ++ further := by
    rw [Endpoint.routeNames, hroute, List.map_append, List.map_map, List.map_map]
    exact congrArg _ (List.map_id further)
  rw [hnames, List.nodup_append]
  refine ⟨hmerged.nodup, hfurther.nodup, ?_⟩
  rintro name hname _ hadded rfl
  have hnew := (List.mem_filter.1 ((hfurther.mem name).1 hadded)).2
  exact of_decide_eq_true hnew hname

theorem placeholders_subset (h : MergedFrom ps e) :
    (PathTemplate.ofPath e.path).placeholders ⊆ e.routeNames := by
  obtain ⟨merged, further, _, hfurther, hroute⟩ := h.route
  intro name hname
  rw [Endpoint.routeNames, hroute, List.map_append, List.mem_append, List.map_map, List.map_map]
  by_cases hmem : name ∈ merged.map Parameter.name
  · exact Or.inl hmem
  · have hadded : name ∈ further :=
      (hfurther.mem name).2 (List.mem_filter.2 ⟨hname, decide_eq_true hmem⟩)
    exact Or.inr (List.mem_map.2 ⟨name, hadded, rfl⟩)

end MergedFrom

theorem mergedFrom_ofOperation (d : Document) (path : String) (method : Method) (item : PathItem)
    (o : Operation) :
    MergedFrom ((entriesOf item o).filterMap d.parameter?)
      (Endpoint.ofOperation d path method item o) := by
  refine ⟨⟨_, lastValues_parametersAt .query _, rfl⟩,
    _, _, lastValues_parametersAt .path _, firstUses_eraseDups _, ?_⟩
  rw [Endpoint.ofOperation, PathTemplate.namesIn_eq, addPlaceholders_eq, List.map_map]
  rfl

/-- **The route parameters of an endpoint have different names.** -/
theorem Endpoint.nodup_routeNames (d : Document) (path : String) (method : Method)
    (item : PathItem) (o : Operation) : (ofOperation d path method item o).routeNames.Nodup :=
  (mergedFrom_ofOperation d path method item o).nodup_routeNames

/-- What is said during an extraction: on each selected operation why it is dropped, or else which
of its entries stand for no parameter. -/
theorem notices_extract (d : Document) (ctx : Context) :
    (extract d ctx).notices =
      (selectedOperations d ctx).flatMap (PlacedOperation.notices d ctx) := by
  unfold extract
  split
  · rename_i hempty
    have hnone : selectedOperations d ctx = [] := by
      rw [selectedOperations, List.isEmpty_iff.1 hempty]
      rfl
    rw [hnone]
    rfl
  · have hinv := Extraction.run_inv (Extraction.start_inv d ctx) (selectedOperations d ctx)
    rw [List.nil_append] at hinv
    exact hinv.notices

/-- **Parameters are merged without loss.** The entries of a path and then those of an operation
stand for parameters, but for those on which there is one warning each; and the endpoint has these
parameters, merged: of those with one name in the query or in the path, one that stands where the
first of them does and says what the last of them says. Behind those in the path follow the
placeholders without declaration, each once. No two names in the query are alike, and no two of the
route, to which all placeholders belong. An extraction says this of each selected operation that is
not dropped. -/
theorem merged_without_loss (d : Document) :
    (∀ path method item o, ∃ ps,
      Resolves d path method (item.parameters ++ o.parameters) ps
        (Endpoint.notices d path method item o) ∧
      (∀ n ∈ Endpoint.notices d path method item o, n.level = .warning) ∧
      MergedFrom ps (.ofOperation d path method item o) ∧
      ((Endpoint.ofOperation d path method item o).query.map QueryParameter.name).Nodup ∧
      (Endpoint.ofOperation d path method item o).routeNames.Nodup ∧
      (PathTemplate.ofPath path).placeholders ⊆
        (Endpoint.ofOperation d path method item o).routeNames) ∧
    ∀ ctx, (extract d ctx).notices = (selectedOperations d ctx).flatMap fun p =>
      match p.drop? d ctx with
      | some n => [n]
      | none => Endpoint.notices d p.path p.method p.item p.operation := by
  refine ⟨fun path method item o => ?_, notices_extract d⟩
  have hmerged := mergedFrom_ofOperation d path method item o
  exact ⟨_, resolves_entries d path method (entriesOf item o), Endpoint.level_of_mem_notices,
    hmerged, Endpoint.nodup_queryNames d path method item o, hmerged.nodup_routeNames,
    hmerged.placeholders_subset⟩

end TypedRequests.Request
