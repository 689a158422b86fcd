import TypedRequests.Proofs.Identifiers
import TypedRequests.Proofs.MergedParameters
import TypedRequests.Proofs.Placeholders

/-!
# Scans of paths

A path is scanned twice: for the names of its placeholders, which become route parameters, and for
its address, in which they are substituted. Both scans cut it at the same places, and there is only
one way of cutting it.

* `PathTemplate.cutFirst_segment`, `PathTemplate.cuts_iff` : a text is cut in one way only.
* `PathTemplate.Scanned` : what both scans see of a path.
* `Request.RouteOf` : what becomes of the placeholders in an endpoint.
* `Request.scans_agree` : the scans agree, on every path.
-/

set_option autoImplicit false

namespace TypedRequests

namespace PathTemplate

variable {before name rest cs : List Char} {t : PathTemplate}

/-! ## One way of cutting -/

/-- A scan up to a character stops where the character stands first. -/
theorem scan_append {stop : Char} (h : stop ∉ before) (rest : List Char) :
    (before ++ stop :: rest).takeWhile (· ≠ stop) = before ∧
      (before ++ stop :: rest).dropWhile (· ≠ stop) = stop :: rest := by
  have hbefore : ∀ c ∈ before, decide (c ≠ stop) = true := by
    intro c hc
    exact decide_eq_true fun hstop => h (hstop ▸ hc)
  constructor
  · rw [List.takeWhile_append_of_pos hbefore, List.takeWhile_cons_of_neg (by simp),
      List.append_nil]
  · rw [List.dropWhile_append_of_pos hbefore, List.dropWhile_cons_of_neg (by simp)]

/-- The first placeholder is the one behind a text without an opening brace. -/
theorem cutFirst_segment (hbefore : '\x7b' ∉ before) (hname : '\x7d' ∉ name) (rest : List Char) :
    cutFirst (segmentChars (before, name) ++ rest) = some (before, name, rest) := by
  have hcs : segmentChars (before, name) ++ rest =
      before ++ '\x7b' :: (name ++ '\x7d' :: rest) := by
    simp [segmentChars]
  obtain ⟨htake, hdrop⟩ := scan_append hbefore (name ++ '\x7d' :: rest)
  obtain ⟨htake', hdrop'⟩ := scan_append hname rest
  rw [hcs, cutFirst, hdrop]
  simp only [hdrop', htake, htake']

/-- A text without placeholders has no first one. -/
theorem cutFirst_of_noPlaceholder (h : NoPlaceholder cs) : cutFirst cs = none := by
  cases hcut : cutFirst cs with
  | none => rfl
  | some first =>
    obtain ⟨before, name, rest⟩ := first
    obtain ⟨hcs, -, -⟩ := cutFirst_some hcut
    have hopen : cs = before ++ '\x7b' :: (name ++ '\x7d' :: rest) := by
      rw [hcs]
      simp [segmentChars]
    exact absurd (by simp) (h before _ hopen)

/-- **A text is cut in one way only.** -/
theorem cuts_iff : Cuts cs t ↔ t = ofChars cs := by
  constructor
  · rintro ⟨rfl, htexts, hnames, hlast⟩
    obtain ⟨segments, last⟩ := t
    induction segments with
    | nil =>
      have hnone : cutFirst last = none := cutFirst_of_noPlaceholder hlast
      simp only [joined, List.flatMap_nil, List.nil_append]
      rw [ofChars_eq, hnone]
    | cons s segments ih =>
      obtain ⟨before, name⟩ := s
      obtain ⟨hbefore, htexts⟩ := List.forall_mem_cons.1 htexts
      obtain ⟨hname, hnames⟩ := List.forall_mem_cons.1 hnames
      have hjoined : joined ⟨(before, name) :: segments, last⟩ =
          segmentChars (before, name) ++ joined ⟨segments, last⟩ := by
        simp only [joined, List.flatMap_cons, List.append_assoc]
      have hrest : (⟨segments, last⟩ : PathTemplate) = ofChars (joined ⟨segments, last⟩) :=
        ih htexts hnames hlast
      rw [hjoined, ofChars_eq, cutFirst_segment hbefore hname]
      simp only [← hrest]
  · rintro rfl
    exact cuts_ofChars cs

/-! ## Both scans -/

/-- Both scans of a path see the pieces of `t`: the path is cut into them, the one scan finds their
names, and the other one writes their texts, escaped, with an expression for each name between
them. -/
structure Scanned (path : String) (t : PathTemplate) : Prop where
  cuts : Cuts path.toList t
  names : namesIn path = t.segments.map fun s => String.ofList s.2
  literal : ∀ expression : String → String, (literalOf path expression).toList =
    backtick :: t.segments.flatMap (fun s =>
      escapedText s.1 ++ '$' :: '\x7b' :: (expression (String.ofList s.2)).toList ++ ['\x7d'])
    ++ escapedText t.last ++ [backtick]

theorem scanned_ofPath (path : String) : Scanned path (ofPath path) := by
  refine ⟨cuts_ofPath path, namesIn_eq path, fun expression => ?_⟩
  rw [literalOf_eq, urlTemplate, String.toList_ofList]
  simp only [substitution, List.cons_append, List.append_assoc]

end PathTemplate

namespace Request

open OpenApi PathTemplate

/-- The placeholders of the path of an endpoint are route parameters: those that are not declared
follow behind those that are, in their order. The address substitutes for each placeholder the
identifier of its route parameter. -/
structure RouteOf (t : PathTemplate) (e : Endpoint) : Prop where
  names : ∃ declared further, e.routeNames = declared ++ further ∧
    FirstUses (t.placeholders.filter fun n => n ∉ declared) further
  identifiers : ∀ name ∈ t.placeholders,
    (name, e.placeholderIdentifier name) ∈ e.routeNames.zip e.routeIdentifiers
  /-- There are no placeholders if there is no template literal. -/
  url : e.route = [] ∧ t.placeholders = [] ∨
    e.urlExpression e.path = literalOf e.path e.placeholderIdentifier

theorem routeOf_ofOperation (d : Document) (path : String) (method : Method) (item : PathItem)
    (o : Operation) : RouteOf (ofPath path) (.ofOperation d path method item o) := by
  have hmerged := mergedFrom_ofOperation d path method item o
  have hsubset : (ofPath path).placeholders ⊆
      (Endpoint.ofOperation d path method item o).routeNames := hmerged.placeholders_subset
  refine ⟨?_, fun name hname => Endpoint.mem_zip_placeholderIdentifier (hsubset hname), ?_⟩
  · obtain ⟨merged, further, -, hfurther, hroute⟩ := hmerged.route
    refine ⟨merged.map Parameter.name, further, ?_, hfurther⟩
    rw [Endpoint.routeNames, hroute, List.map_append, List.map_map, List.map_map]
    exact congrArg _ (List.map_id further)
  · by_cases hroute : (Endpoint.ofOperation d path method item o).route = []
    · refine Or.inl ⟨hroute, ?_⟩
      rw [Endpoint.routeNames, hroute, List.map_nil] at hsubset
      exact List.subset_nil.1 hsubset
    · refine Or.inr ?_
      rw [Endpoint.urlExpression, if_neg (by simpa using hroute)]

/-- **The scans of a path agree.** There is exactly one way of cutting a path at its placeholders,
and both scans cut it so. In the endpoint of an operation on the path exactly these placeholders are
route parameters and are substituted in the address, in the same order. -/
theorem scans_agree (path : String) :
    ∃ t, Scanned path t ∧ (∀ t', Cuts path.toList t' → t' = t) ∧
      ∀ d method item o, RouteOf t (.ofOperation d path method item o) := by
  refine ⟨ofPath path, scanned_ofPath path, fun t' ht' => cuts_iff.1 ht', ?_⟩
  exact fun d method item o => routeOf_ofOperation d path method item o

/-- Braces that are nested, empty or without partner. -/
example : (ofPath "/\x7ba\x7bb\x7d/\x7b\x7d\x7d/\x7bc").segments =
    [("/".toList, "a\x7bb".toList), ("/".toList, [])] := by
  decide

end Request

end TypedRequests
