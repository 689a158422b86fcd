import TypedRequests.Proofs.Documentation
import TypedRequests.Proofs.Paths
import TypedRequests.Proofs.TemplateLiterals
import TypedRequests.Request.Function

/-!
# What the documentation of a function says

The documentation of a function is the summary of its operation, and an entry for each of its route
parameters.

* `ParamEntry`, `Documents` : the entries, and the documentation they are in.
* `Endpoint.documents_functionDoc` : the documentation of a function.
* `taggedNames`, `Documents.taggedNames_eq` : the identifiers that are read in a documentation.
-/

set_option autoImplicit false

namespace TypedRequests.Request

open TypeScript

variable {e : Endpoint} {identifiers : List String}

/-! ## Entries -/

theorem Endpoint.nonBlank_eq (s : Option String) :
    nonBlank s = (s.map Text.trimmed).filter (· ≠ "") := by
  cases s with
  | none => rfl
  | some s => cases hs : Text.isAllBlank s <;>
      simp [nonBlank, Option.filter, Text.trimmed_eq_empty_iff, hs]

/-- What a documentation begins an entry on a parameter with. -/
def paramTag : String :=
  "@param "

/-- The entry of a documentation on a parameter: a tag, the identifier, and the description, if
there is anything in it. -/
inductive ParamEntry (identifier : String) (description : Option String) : String → Prop where
  | bare (h : ∀ d ∈ description, Text.trimmed d = "") :
      ParamEntry identifier description (paramTag ++ identifier)
  | described {d : String} (h : description = some d) (hd : Text.trimmed d ≠ "") :
      ParamEntry identifier description (paramTag ++ identifier ++ " " ++ Text.trimmed d)

/-- The lines of a documentation: the summary, if there is anything in it, and behind it one entry
for each route parameter, in order. -/
def DocLines (e : Endpoint) (identifiers lines : List String) : Prop :=
  ∃ entries, lines = ((e.summary.map Text.trimmed).filter (· ≠ "")).toList ++ entries ∧
    List.Forall₂ (fun p entry => ParamEntry p.2 p.1.description entry)
      (e.route.zip identifiers) entries

/-- The documentation has these lines. If there are none, there is no documentation. -/
inductive Documents (e : Endpoint) (identifiers : List String) : Option String → Prop where
  | none (h : DocLines e identifiers []) : Documents e identifiers none
  | some {lines : List String} (hne : lines ≠ []) (h : DocLines e identifiers lines) :
      Documents e identifiers (some ("\n".intercalate lines))

theorem paramEntry_parameterLine (r : RouteParameter) (identifier : String) :
    ParamEntry identifier r.description (Endpoint.parameterLine r identifier) := by
  unfold Endpoint.parameterLine
  split
  · rename_i text htext
    rw [Endpoint.nonBlank_eq, Option.filter_eq_some_iff] at htext
    obtain ⟨hmap, hne⟩ := htext
    obtain ⟨d, hd, rfl⟩ := Option.map_eq_some_iff.1 hmap
    exact .described hd (of_decide_eq_true hne)
  · rename_i hnone
    rw [Endpoint.nonBlank_eq, Option.filter_eq_none_iff] at hnone
    refine .bare fun d hd => ?_
    have hempty := hnone (Text.trimmed d) (Option.map_eq_some_iff.2 ⟨d, hd, rfl⟩)
    simpa using hempty

theorem Endpoint.documents_functionDoc (e : Endpoint) :
    Documents e e.routeIdentifiers e.functionDoc := by
  have hlines : DocLines e e.routeIdentifiers
      ((nonBlank e.summary).toList ++ e.route.zipWith parameterLine e.routeIdentifiers) := by
    refine ⟨_, by rw [nonBlank_eq], ?_⟩
    rw [← List.map_uncurry_zip_eq_zipWith, List.forall₂_map_right_iff, List.forall₂_same]
    exact fun p _ => paramEntry_parameterLine p.1 p.2
  simp only [functionDoc]
  split
  · rename_i hempty
    rw [List.isEmpty_iff.1 hempty] at hlines
    exact .none hlines
  · rename_i hne
    exact .some (mt List.isEmpty_iff.2 hne) hlines

/-! ## Reading a documentation -/

/-- The identifier that a line is about: the word behind the tag at its beginning. -/
def taggedName? (line : List Char) : Option String :=
  (Text.stripPrefix? paramTag.toList line).map fun rest =>
    String.ofList (rest.takeWhile (· ≠ ' '))

/-- The identifiers that the lines of a documentation are about. -/
def taggedNames (doc : String) : List String :=
  (Text.splitOn '\n' doc.toList).filterMap taggedName?

/-- What the document says on an operation cannot be taken for an entry: each text is a single line,
and the summary begins with no tag. -/
structure SingleLines (e : Endpoint) : Prop where
  summary : ∀ s ∈ e.summary, '\n' ∉ (Text.trimmed s).toList ∧
    taggedName? (Text.trimmed s).toList = none
  route : ∀ r ∈ e.route, ∀ d ∈ r.description, '\n' ∉ (Text.trimmed d).toList

instance (e : Endpoint) : Decidable (SingleLines e) :=
  decidable_of_iff
    ((∀ s ∈ e.summary, '\n' ∉ (Text.trimmed s).toList ∧
      taggedName? (Text.trimmed s).toList = none) ∧
      ∀ r ∈ e.route, ∀ d ∈ r.description, '\n' ∉ (Text.trimmed d).toList)
    ⟨fun ⟨hsummary, hroute⟩ => ⟨hsummary, hroute⟩, fun ⟨hsummary, hroute⟩ => ⟨hsummary, hroute⟩⟩

namespace ParamEntry

variable {identifier entry : String} {description : Option String}

/-- Behind the identifier of an entry nothing stands, or its description after a space. -/
theorem toList_eq (h : ParamEntry identifier description entry) :
    ∃ rest, entry.toList = paramTag.toList ++ (identifier.toList ++ rest) ∧
      (rest = [] ∨ ∃ d ∈ description, rest = ' ' :: (Text.trimmed d).toList) := by
  cases h with
  | bare h => exact ⟨[], by simp [paramTag], Or.inl rfl⟩
  | @described d h hd => exact ⟨_, by simp [paramTag], Or.inr ⟨d, h, rfl⟩⟩

/-- **An entry is about its identifier.** -/
theorem taggedName?_eq (h : ParamEntry identifier description entry) (hname : IsName identifier) :
    taggedName? entry.toList = some identifier := by
  obtain ⟨rest, hentry, hrest⟩ := h.toList_eq
  have hword : ∀ c ∈ identifier.toList, decide (c ≠ ' ') = true := by
    intro c hc
    refine decide_eq_true ?_
    rintro rfl
    exact absurd (hname.2 _ hc) (by decide)
  have hend : rest.takeWhile (· ≠ ' ') = [] := by
    rcases hrest with rfl | ⟨d, _, rfl⟩ <;> rfl
  rw [taggedName?, hentry, Text.stripPrefix?_eq_some_iff.2 rfl, Option.map_some,
    List.takeWhile_append_of_pos hword, hend, List.append_nil, String.ofList_toList]

/-- An entry is a single line if its description is. -/
theorem not_mem_newLine (h : ParamEntry identifier description entry) (hname : IsName identifier)
    (hdescription : ∀ d ∈ description, '\n' ∉ (Text.trimmed d).toList) :
    '\n' ∉ entry.toList := by
  obtain ⟨rest, hentry, hrest⟩ := h.toList_eq
  have hword : '\n' ∉ identifier.toList := fun hc => absurd (hname.2 _ hc) (by decide)
  have hend : '\n' ∉ rest := by
    rcases hrest with rfl | ⟨d, hd, rfl⟩
    · exact List.not_mem_nil
    · exact List.not_mem_cons_of_ne_of_not_mem (by decide) (hdescription d hd)
  rw [hentry, List.mem_append, List.mem_append, not_or, not_or]
  exact ⟨by decide, hword, hend⟩

end ParamEntry

/-- Entries are read as their identifiers, one line for each. -/
theorem read_entries {ps : List (RouteParameter × String)} {entries : List String}
    (h : List.Forall₂ (fun p entry => ParamEntry p.2 p.1.description entry) ps entries)
    (hps : ∀ p ∈ ps, IsName p.2 ∧ ∀ d ∈ p.1.description, '\n' ∉ (Text.trimmed d).toList) :
    (∀ entry ∈ entries, '\n' ∉ entry.toList) ∧
      entries.filterMap (fun entry => taggedName? entry.toList) = ps.map Prod.snd := by
  induction h with
  | nil => exact ⟨nofun, rfl⟩
  | cons hentry _ ih =>
    obtain ⟨⟨hname, hdescription⟩, hps⟩ := List.forall_mem_cons.1 hps
    obtain ⟨hlines, hread⟩ := ih hps
    refine ⟨List.forall_mem_cons.2 ⟨hentry.not_mem_newLine hname hdescription, hlines⟩, ?_⟩
    rw [List.filterMap_cons, hentry.taggedName?_eq hname, hread]
    rfl

/-- The lines of a documentation are read as the identifiers. -/
theorem DocLines.read {lines : List String} (h : DocLines e identifiers lines)
    (hsingle : SingleLines e) (hnames : ∀ i ∈ identifiers, IsName i)
    (hlength : identifiers.length = e.route.length) :
    (∀ line ∈ lines, '\n' ∉ line.toList) ∧
      lines.filterMap (fun line => taggedName? line.toList) = identifiers := by
  obtain ⟨entries, rfl, hentries⟩ := h
  obtain ⟨hlines, hread⟩ := read_entries hentries fun p hp =>
    ⟨hnames p.2 (List.of_mem_zip hp).2, hsingle.route p.1 (List.of_mem_zip hp).1⟩
  have hsummary : ∀ line ∈ ((e.summary.map Text.trimmed).filter (· ≠ "")).toList,
      '\n' ∉ line.toList ∧ taggedName? line.toList = none := by
    intro line hline
    obtain ⟨hmap, -⟩ := Option.filter_eq_some_iff.1 (Option.mem_toList.1 hline)
    obtain ⟨s, hs, rfl⟩ := Option.map_eq_some_iff.1 hmap
    exact hsingle.summary s hs
  refine ⟨List.forall_mem_append.2 ⟨fun line hline => (hsummary line hline).1, hlines⟩, ?_⟩
  rw [List.filterMap_append, hread, List.map_snd_zip (Nat.le_of_eq hlength),
    List.filterMap_eq_nil_iff.2 fun line hline => (hsummary line hline).2, List.nil_append]

/-- **A documentation is about the identifiers**, in their order. -/
theorem Documents.taggedNames_eq {doc : Option String} (h : Documents e identifiers doc)
    (hsingle : SingleLines e) (hnames : ∀ i ∈ identifiers, IsName i)
    (hlength : identifiers.length = e.route.length) : doc.elim [] taggedNames = identifiers := by
  cases h with
  | none hlines => exact (hlines.read hsingle hnames hlength).2
  | @some lines hne hlines =>
    obtain ⟨hsplit, hread⟩ := hlines.read hsingle hnames hlength
    have hpieces : ∀ piece ∈ lines.map String.toList, '\n' ∉ piece := List.forall_mem_map.2 hsplit
    have hnewLine : "\n".toList = ['\n'] := rfl
    rw [Option.elim_some, taggedNames, String.toList_intercalate, hnewLine, Text.splitOn_eq,
      List.splitOn_intercalate _ hpieces (by simpa using hne), List.filterMap_map]
    exact hread

end TypedRequests.Request
