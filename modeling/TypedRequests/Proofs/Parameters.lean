import Mathlib.Data.List.Nodup
import TypedRequests.Request.Function

/-!
# Parameters of an endpoint

The parameters of an endpoint are those of its document, one for each name and place.

* `keys_putParameter`, `nodup_keys_mergeParameters` : no two merged parameters share name and place.
* `mem_of_mem_mergeParameters` : merging invents no parameter.
* `filter_mergeParameters` : parameters that differ in name or place do not meet.
* `addPlaceholders_eq`, `mem_addPlaceholders` : the placeholders that are added, which declare
  nothing.
* `Endpoint.nodup_queryNames` : the query parameters of an endpoint have different names.
* `Endpoint.querySchema_properties` : each of them is a property of the query type.
-/

set_option autoImplicit false

namespace TypedRequests

/-! ## Entries with different keys -/

namespace Entries

variable {κ α : Type} [DecidableEq κ]

theorem put_of_not_mem {key : κ} {value : α} {es : List (κ × α)} (h : key ∉ keys es) :
    put key value es = es ++ [(key, value)] := by
  induction es with
  | nil => rfl
  | cons e es ih =>
    obtain ⟨k, v⟩ := e
    obtain ⟨hne, hes⟩ := not_or.1 (mt List.mem_cons.2 h)
    rw [put, if_neg (Ne.symm hne), ih hes, List.cons_append]

/-- **Entries with different keys stay as they are.** -/
theorem ofPairs_of_nodup {es : List (κ × α)} (h : (keys es).Nodup) : ofPairs es = es := by
  suffices ∀ m : List (κ × α), (keys (m ++ es)).Nodup →
      es.foldl (fun m e => put e.1 e.2 m) m = m ++ es from this [] h
  clear h
  induction es with
  | nil => exact fun m _ => (List.append_nil m).symm
  | cons e es ih =>
    intro m h
    have hnew : e.1 ∉ keys m := by
      rw [keys, List.map_append] at h
      exact fun hm => (List.nodup_append.1 h).2.2 e.1 hm e.1 (List.mem_cons_self ..) rfl
    rw [List.foldl_cons, put_of_not_mem hnew, ih _ (by rwa [← List.append_cons]),
      ← List.append_cons]

end Entries

namespace Request

open OpenApi

variable {p q : Parameter} {ps : List Parameter}

/-! ## Merged parameters -/

/-- What tells a parameter from the others of an operation. -/
def parameterKey (p : Parameter) : String × Location :=
  (p.name, p.location)

theorem sameParameter_iff : sameParameter p q = true ↔ parameterKey p = parameterKey q := by
  simp [sameParameter, parameterKey]

/-- A parameter takes the place of the one with its key, or comes last. -/
theorem keys_putParameter (p : Parameter) (ps : List Parameter) :
    (putParameter p ps).map parameterKey =
      if parameterKey p ∈ ps.map parameterKey then ps.map parameterKey
      else ps.map parameterKey ++ [parameterKey p] := by
  induction ps with
  | nil => rfl
  | cons q qs ih =>
    by_cases hq : parameterKey q = parameterKey p
    · rw [putParameter, if_pos (sameParameter_iff.2 hq)]
      simp [hq]
    · have hne : parameterKey p ≠ parameterKey q := fun h => hq h.symm
      rw [putParameter, if_neg (mt sameParameter_iff.1 hq), List.map_cons, List.map_cons, ih]
      by_cases hmem : parameterKey p ∈ qs.map parameterKey
      · rw [if_pos hmem, if_pos (List.mem_cons_of_mem _ hmem)]
      · rw [if_neg hmem, if_neg (List.not_mem_cons_of_ne_of_not_mem hne hmem), List.cons_append]

theorem nodup_keys_putParameter (p : Parameter) (h : (ps.map parameterKey).Nodup) :
    ((putParameter p ps).map parameterKey).Nodup := by
  rw [keys_putParameter]
  split
  · exact h
  · rename_i hnew
    rw [← List.concat_eq_append]
    exact h.concat hnew

/-- **Merged parameters have different keys.** -/
theorem nodup_keys_mergeParameters (ps : List Parameter) :
    ((mergeParameters ps).map parameterKey).Nodup := by
  suffices ∀ merged : List Parameter, (merged.map parameterKey).Nodup →
      ((ps.foldl (fun merged p => putParameter p merged) merged).map parameterKey).Nodup from
    this [] List.nodup_nil
  induction ps with
  | nil => exact fun merged h => h
  | cons p ps ih => exact fun merged h => ih _ (nodup_keys_putParameter p h)

theorem mem_of_mem_putParameter (h : q ∈ putParameter p ps) : q = p ∨ q ∈ ps := by
  induction ps with
  | nil => exact Or.inl (List.mem_singleton.1 h)
  | cons r rs ih =>
    unfold putParameter at h
    split at h
    · rcases List.mem_cons.1 h with rfl | h
      · exact Or.inl rfl
      · exact Or.inr (List.mem_cons_of_mem _ h)
    · rcases List.mem_cons.1 h with rfl | h
      · exact Or.inr (List.mem_cons_self ..)
      · exact (ih h).imp id (List.mem_cons_of_mem _)

/-- **Merging invents no parameter.** -/
theorem mem_of_mem_mergeParameters (h : q ∈ mergeParameters ps) : q ∈ ps := by
  suffices ∀ merged : List Parameter,
      q ∈ ps.foldl (fun merged p => putParameter p merged) merged → q ∈ merged ∨ q ∈ ps from
    (this [] h).resolve_left nofun
  clear h
  induction ps with
  | nil => exact fun merged h => Or.inl h
  | cons p ps ih =>
    intro merged h
    rcases ih _ h with h | h
    · rcases mem_of_mem_putParameter h with rfl | h
      · exact Or.inr (List.mem_cons_self ..)
      · exact Or.inl h
    · exact Or.inr (List.mem_cons_of_mem _ h)

/-- What parameters with the same name and place agree on decides which of them are kept. -/
theorem filter_putParameter {f : Parameter → Bool}
    (hf : ∀ p q, sameParameter p q = true → f p = f q) (p : Parameter) (ps : List Parameter) :
    (putParameter p ps).filter f = if f p then putParameter p (ps.filter f) else ps.filter f := by
  induction ps with
  | nil => cases h : f p <;> simp [putParameter, h]
  | cons q ps ih =>
    rw [putParameter]
    by_cases hsame : sameParameter q p = true
    · rw [if_pos hsame]
      cases h : f p <;> simp [putParameter, h, hf q p hsame, hsame]
    · rw [if_neg hsame]
      cases hq : f q <;> cases hp : f p <;> simp [putParameter, hq, hp, ih, hsame]

theorem filter_mergeParameters {f : Parameter → Bool}
    (hf : ∀ p q, sameParameter p q = true → f p = f q) (ps : List Parameter) :
    (mergeParameters ps).filter f = mergeParameters (ps.filter f) := by
  suffices ∀ acc : List Parameter,
      (ps.foldl (fun merged p => putParameter p merged) acc).filter f =
        (ps.filter f).foldl (fun merged p => putParameter p merged) (acc.filter f) from this []
  induction ps with
  | nil => exact fun _ => rfl
  | cons p ps ih =>
    intro acc
    rw [List.foldl_cons, ih, filter_putParameter hf]
    cases h : f p <;> simp [h]

/-! ## Placeholders -/

/-- **The placeholders that are added** are those without a route parameter, each once. -/
theorem addPlaceholders_eq (route : List RouteParameter) (placeholders : List String) :
    addPlaceholders route placeholders = route ++
      (placeholders.filter fun n => n ∉ route.map RouteParameter.name).eraseDups.map
        .undeclared := by
  induction placeholders generalizing route with
  | nil => simp [addPlaceholders]
  | cons name placeholders ih =>
    rw [addPlaceholders]
    by_cases hname : name ∈ route.map RouteParameter.name
    · have hany : (route.any fun r => r.name == name) = true := by
        obtain ⟨r, hr, rfl⟩ := List.mem_map.1 hname
        exact List.any_eq_true.2 ⟨r, hr, beq_self_eq_true _⟩
      rw [if_pos hany, List.filter_cons_of_neg (by simpa using hname), ih]
    · have hany : (route.any fun r => r.name == name) ≠ true := by
        intro hany
        obtain ⟨r, hr, he⟩ := List.any_eq_true.1 hany
        exact hname (List.mem_map.2 ⟨r, hr, eq_of_beq he⟩)
      -- those that are left are not the placeholder that was just added
      have hleft : (placeholders.filter fun n =>
            n ∉ (route ++ [RouteParameter.undeclared name]).map RouteParameter.name) =
          (placeholders.filter fun n => n ∉ route.map RouteParameter.name).filter
            fun n => !n == name := by
        rw [List.filter_filter]
        have hnames : (route ++ [RouteParameter.undeclared name]).map RouteParameter.name =
            route.map RouteParameter.name ++ [name] := by
          rw [List.map_append]
          rfl
        rw [hnames]
        refine List.filter_congr fun n _ => ?_
        by_cases hn : n = name
        · simp [hn]
        · simp [hn]
      rw [if_neg hany, List.filter_cons_of_pos (by simpa using hname), ih, hleft,
        List.eraseDups_cons, List.map_cons, List.append_assoc]
      rfl

/-- A further placeholder declares nothing. -/
theorem mem_addPlaceholders {route : List RouteParameter} {placeholders : List String}
    {r : RouteParameter} (h : r ∈ addPlaceholders route placeholders) :
    r ∈ route ∨ r.schema = none := by
  rw [addPlaceholders_eq] at h
  rcases List.mem_append.1 h with h | h
  · exact Or.inl h
  · obtain ⟨_, _, rfl⟩ := List.mem_map.1 h
    exact Or.inr rfl

/-! ## Parameters of an endpoint -/

/-- **The query parameters of an endpoint have different names.** -/
theorem Endpoint.nodup_queryNames (d : Document) (path : String) (method : Method)
    (item : PathItem) (o : Operation) :
    ((ofOperation d path method item o).query.map QueryParameter.name).Nodup := by
  have hkeys := nodup_keys_mergeParameters ((entriesOf item o).filterMap d.parameter?)
  simp only [ofOperation, parametersAt, List.map_map, List.Nodup, List.pairwise_map,
    List.pairwise_filter] at hkeys ⊢
  refine hkeys.imp fun {p q} hne hp hq hname => hne ?_
  -- at one place the name alone tells parameters apart
  exact Prod.ext hname ((eq_of_beq hp).trans (eq_of_beq hq).symm)

/-- **Every query parameter is a property of the query type.** -/
theorem Endpoint.querySchema_properties {e : Endpoint}
    (h : (e.query.map QueryParameter.name).Nodup) :
    e.querySchema.properties = some (e.query.map fun p => (p.name, querySchemaOf p)) := by
  simp only [querySchema]
  rw [Entries.ofPairs_of_nodup]
  rwa [Entries.keys, List.map_map]

end Request

end TypedRequests
