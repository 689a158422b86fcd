import TypedRequests.Proofs.Outputs
import TypedRequests.Proofs.Places

/-!
# Where import sources lead

The modules of a tag name the model module by as many steps up as their directory has parts beyond
the common beginning of both paths, and the parts of the model module beyond it. Steps up undo
plain names, but not parts that go up themselves.

* `Path.inner_relativeSource` : the parts of a source.
* `Path.sourceLeads_iff` : what must hold for a source to lead to its target.
* `Path.properSource_iff`, `Request.properSource_tagDir_iff` : which sources begin with `./` or
  `../`.
* `Request.source_leads_iff` : what this means for a layout.
-/

set_option autoImplicit false

namespace TypedRequests

namespace Path

variable {dir target : Path} {common up down : List PathPart}

/-! ## Texts of sources -/

/-- A text behind `./`, unless it begins with two points. -/
def dotted (text : String) : String :=
  if (Text.stripPrefix? ['.', '.'] text.toList).isSome then text else "./" ++ text

theorem isSome_stripPrefix?_iff {cs ps : List Char} :
    (Text.stripPrefix? ps cs).isSome = true ↔ ps <+: cs := by
  rw [Option.isSome_iff_exists]
  exact ⟨fun ⟨rest, h⟩ => ⟨rest, (Text.stripPrefix?_eq_some_iff.1 h).symm⟩,
    fun ⟨rest, h⟩ => ⟨rest, Text.stripPrefix?_eq_some_iff.2 h.symm⟩⟩

theorem not_isAbsolute_dotted (text : String) : isAbsolute ⟨dotted text⟩ = false := by
  unfold dotted isAbsolute
  split
  · rename_i h
    obtain ⟨rest, hrest⟩ := isSome_stripPrefix?_iff.1 h
    simp [← hrest]
  · simp

/-- What is put before a text is no part. -/
theorem inner_dotted (text : String) : inner ⟨dotted text⟩ = inner ⟨text⟩ := by
  unfold dotted
  split
  · rfl
  · have hlist : ("./" ++ text).toList = ['.'] ++ '/' :: text.toList := by simp
    rw [inner, segments, hlist, Text.splitOn_append, List.filterMap_append]
    rfl

/-- The steps up of a source, and then down. -/
def sourceParts (up down : List PathPart) : List PathPart :=
  List.replicate up.length .up ++ down

theorem relativeSource_eq (h : Parting dir.steps target.steps common up down) :
    dir.relativeSource target =
      dotted ("/".intercalate ((sourceParts up down).map PathPart.text)) := by
  unfold relativeSource
  rw [h.dropCommon_eq]
  change dotted ("/".intercalate (up.map (fun _ => "..") ++ down.map PathPart.text)) = _
  rw [List.map_const', sourceParts, List.map_append, List.map_replicate]
  rfl

/-- The steps of a path go up, or are plain names, or the root. -/
theorem inner_of_mem_steps {p : Path} {part : PathPart} (h : part ∈ p.steps) :
    part = .root ∨ Inner part := by
  rw [steps_eq] at h
  split at h
  · exact (List.mem_cons.1 h).imp_right inner_of_mem
  · exact Or.inr (inner_of_mem h)

theorem sourceParts_spec (h : Parting dir.steps target.steps common up down) :
    ∀ part ∈ sourceParts up down, part = .root ∨ Inner part := by
  intro part hpart
  rcases List.mem_append.1 hpart with hpart | hpart
  · exact Or.inr (List.eq_of_mem_replicate hpart ▸ .up)
  · exact inner_of_mem_steps (h.right ▸ List.mem_append_right _ hpart)

/-- **The parts of a source**: steps up, and then down. The root gets lost. -/
theorem inner_relativeSource (h : Parting dir.steps target.steps common up down) :
    inner ⟨dir.relativeSource target⟩ =
      List.replicate up.length .up ++ down.filter (· ≠ .root) := by
  have hup : PathPart.root ∉ List.replicate up.length PathPart.up := fun hroot =>
    nomatch List.eq_of_mem_replicate hroot
  rw [relativeSource_eq h, inner_dotted, inner_intercalate (sourceParts_spec h), sourceParts,
    List.filter_append, filter_ne_root hup]

/-! ## Leading to the target -/

/-- The source leads from the directory to the target; both paths are taken from the current
directory. -/
def SourceLeads (dir target : Path) (current : Place) : Prop :=
  resolve ⟨dir.relativeSource target⟩ (dir.resolve current) = target.resolve current

instance (dir target : Path) (current : Place) : Decidable (SourceLeads dir target current) :=
  inferInstanceAs (Decidable (_ = _))

/-- **A source starts where the steps up end**, and leads on from there. -/
theorem sourceLeads_iff (h : Parting dir.steps target.steps common up down)
    (hroot : PathPart.root ∉ up) (current : Place) :
    SourceLeads dir target current ↔
      (down.filter (· ≠ .root)).foldl PathPart.move
          ((common.foldl PathPart.move current).take
            ((common.foldl PathPart.move current).length - 2 * up.count .up)) =
        down.foldl PathPart.move (common.foldl PathPart.move current) := by
  have hhere : PathPart.here ∉ up := fun hmem => by
    rcases inner_of_mem_steps (h.left ▸ List.mem_append_right _ hmem) with he | he <;> cases he
  have hrelative : isAbsolute ⟨dir.relativeSource target⟩ = false := by
    rw [relativeSource_eq h]
    exact not_isAbsolute_dotted _
  rw [SourceLeads, resolve_of_relative hrelative, inner_relativeSource h, resolve_eq, resolve_eq,
    h.left, h.right, List.foldl_append, List.foldl_append, List.foldl_append,
    PathPart.foldl_move_back hroot hhere]

/-- From the same beginning a source leads to its target if its directory has no step up beyond
it, or if the target climbs over it. -/
theorem sourceLeads_iff_of_root_not_mem (h : Parting dir.steps target.steps common up down)
    (hup : PathPart.root ∉ up) (hdown : PathPart.root ∉ down) (current : Place) :
    SourceLeads dir target current ↔
      .up ∉ up ∨ (common.foldl PathPart.move current).length ≤ PathPart.climb down := by
  rw [sourceLeads_iff h hup, filter_ne_root hdown, PathPart.foldl_move_take_iff hdown,
    ← List.count_eq_zero]
  omega

/-! ## Form -/

/-- The source begins with `./` or `../`. -/
def ProperSource (source : String) : Prop :=
  ['.', '/'] <+: source.toList ∨ ['.', '.', '/'] <+: source.toList

instance (source : String) : Decidable (ProperSource source) :=
  inferInstanceAs (Decidable (_ ∨ _))

/-- A joined text begins with its first piece. -/
theorem toList_intercalate_cons (piece : String) (pieces : List String) :
    ∃ tail, ("/".intercalate (piece :: pieces)).toList = piece.toList ++ tail ∧
      (pieces ≠ [] → ∃ rest, tail = '/' :: rest) := by
  cases pieces with
  | nil => exact ⟨[], by simp, fun h => absurd rfl h⟩
  | cons next pieces =>
    exact ⟨'/' :: ("/".intercalate (next :: pieces)).toList,
      by simp [String.intercalate_cons_cons], fun _ => ⟨_, rfl⟩⟩

theorem dotted_of_points {text : String} (h : ['.', '.'] <+: text.toList) : dotted text = text :=
  if_pos (isSome_stripPrefix?_iff.2 h)

theorem properSource_of_not_points {text : String} (h : ¬ ['.', '.'] <+: text.toList) :
    ProperSource (dotted text) := by
  rw [dotted, if_neg (mt isSome_stripPrefix?_iff.1 h)]
  exact Or.inl ⟨text.toList, by simp⟩

/-- A plain name behind which a text goes on begins with two points if the whole text does. -/
theorem points_of_append {s : String} {tail : List Char} (hs : PlainName s)
    (h : ['.', '.'] <+: s.toList ++ tail) : ['.', '.'] <+: s.toList := by
  obtain ⟨rest, hrest⟩ := h
  rcases hlist : s.toList with _ | ⟨a, _ | ⟨b, cs⟩⟩
  · exact absurd (String.toList_eq_nil_iff.1 hlist) hs.nonempty
  · rw [hlist] at hrest
    obtain ⟨rfl, -⟩ := List.cons.inj hrest
    exact absurd (String.toList_inj.1 hlist) hs.notHere
  · rw [hlist] at hrest
    simp only [List.cons_append, List.cons.injEq] at hrest
    obtain ⟨rfl, rfl, -⟩ := hrest
    exact ⟨cs, rfl⟩

/-- A plain name that begins with two points goes on with another character than a slash. -/
theorem not_properSource_of_points {s text : String} {tail : List Char} (hs : PlainName s)
    (hpoints : ['.', '.'] <+: s.toList) (htext : text.toList = s.toList ++ tail) :
    ¬ ProperSource text := by
  obtain ⟨rest, hrest⟩ := hpoints
  rw [← hrest] at htext
  rcases rest with _ | ⟨c, rest⟩
  · exact absurd (String.toList_inj.1 hrest.symm) hs.notUp
  · have hc : c ≠ '/' := fun he => hs.noSlash (by rw [← hrest, he]; simp)
    rintro (⟨r, hr⟩ | ⟨r, hr⟩)
    · rw [htext] at hr
      exact absurd (List.cons.inj (List.cons.inj hr).2).1 (by decide)
    · rw [htext] at hr
      exact hc (List.cons.inj (List.cons.inj (List.cons.inj hr).2).2).1.symm

/-- **Which texts of parts are proper sources**: not that of a single step up, nor one with a first
name that begins with two points. -/
theorem properSource_iff {ps : List PathPart} (h : ∀ part ∈ ps, part = .root ∨ Inner part)
    (hhead : ps.head? ≠ some .root) :
    ProperSource (dotted ("/".intercalate (ps.map PathPart.text))) ↔
      ps ≠ [.up] ∧ ∀ s rest, ps = .name s :: rest → ¬ ['.', '.'] <+: s.toList := by
  cases ps with
  | nil =>
    have hproper : ProperSource (dotted "") := properSource_of_not_points (by decide)
    exact ⟨fun _ => ⟨nofun, nofun⟩, fun _ => hproper⟩
  | cons part ps =>
    obtain ⟨tail, htail, hslash⟩ := toList_intercalate_cons part.text (ps.map PathPart.text)
    rw [List.map_cons]
    rcases h part (List.mem_cons_self ..) with rfl | _ | ⟨hs⟩
    · exact absurd rfl hhead
    · rw [dotted_of_points ⟨tail, htail.symm⟩]
      cases ps with
      | nil =>
        rw [List.map_nil, String.intercalate_singleton]
        exact ⟨fun hproper => absurd hproper (by decide),
          fun hnot => absurd rfl hnot.1⟩
      | cons next ps =>
        obtain ⟨rest, rfl⟩ := hslash nofun
        exact ⟨fun _ => ⟨nofun, nofun⟩, fun _ => Or.inr ⟨rest, htail.symm⟩⟩
    · rename_i s
      by_cases hpoints : ['.', '.'] <+: s.toList
      · have hnot := not_properSource_of_points hs hpoints htail
        rw [dotted_of_points (htail ▸ hpoints.trans (List.prefix_append ..))]
        exact ⟨fun hproper => absurd hproper hnot, fun hall => absurd hpoints (hall.2 s ps rfl)⟩
      · refine ⟨fun _ => ⟨nofun, fun s' rest he => ?_⟩, fun _ => properSource_of_not_points
          fun hdots => hpoints (points_of_append hs (htail ▸ hdots))⟩
        obtain ⟨hname, -⟩ := List.cons.inj he
        exact PathPart.name.inj hname ▸ hpoints

/-! ## Roots -/

theorem root_not_mem_steps {p : Path} (h : p.isAbsolute = false) : PathPart.root ∉ p.steps := by
  rw [steps_eq, h]
  exact root_not_mem_inner

/-- Only the first step of a path may be the root. -/
theorem root_not_mem_rest {p : Path} {front rest : List PathPart} (h : p.steps = front ++ rest)
    (hfront : front ≠ []) : PathPart.root ∉ rest := by
  obtain ⟨first, front, rfl⟩ := List.exists_cons_of_ne_nil hfront
  rw [steps_eq, List.cons_append] at h
  split at h
  · obtain ⟨-, hinner⟩ := List.cons.inj h
    exact fun hroot => root_not_mem_inner (hinner ▸ List.mem_append_right _ hroot)
  · exact fun hroot => root_not_mem_inner
      (h ▸ List.mem_cons_of_mem _ (List.mem_append_right _ hroot))

end Path

namespace Request

variable {file : Path}

/-! ## Layouts -/

/-- The step into the directory of a tag. -/
def tagStep (tag : String) : PathPart :=
  .name (Naming.tagDirectory tag)

theorem steps_tagDir (layout : OutputLayout) (tag : String) :
    (tagDir layout tag).steps = layout.dir.steps ++ [tagStep tag] := by
  have hparts : (tagDir layout tag).parts = layout.dir.parts ++ [tagStep tag] :=
    Path.parts_join layout.dir (Naming.plainName_tagDirectory tag)
  rw [Path.steps, hparts, List.filter_append]
  rfl

theorem up_ne_tagStep (tag : String) : PathPart.up ≠ tagStep tag := by
  unfold tagStep
  exact PathPart.noConfusion

theorem root_ne_tagStep (tag : String) : PathPart.root ≠ tagStep tag := by
  unfold tagStep
  exact PathPart.noConfusion

/-- **A model module inside of the directory is found.** -/
theorem sourceLeads_of_relative (layout : OutputLayout)
    (hmodel : layout.model = layout.dir.join file) (h : file.isAbsolute = false) (tag : String)
    (current : Place) :
    (tagDir layout tag).SourceLeads layout.model current := by
  obtain ⟨common, up, down, hparting⟩ := exists_parting [tagStep tag] file.steps
  have hup : ∀ part ∈ up, part = tagStep tag := fun part hpart =>
    List.mem_singleton.1 (hparting.left ▸ List.mem_append_right _ hpart)
  have hdown : PathPart.root ∉ down := fun hroot =>
    Path.root_not_mem_steps h (hparting.right ▸ List.mem_append_right _ hroot)
  have hjoined := hparting.append_left layout.dir.steps
  rw [← Path.steps_join layout.dir h, ← hmodel, ← steps_tagDir] at hjoined
  have hroot : PathPart.root ∉ up := fun hmem => root_ne_tagStep tag (hup _ hmem)
  rw [Path.sourceLeads_iff_of_root_not_mem hjoined hroot hdown]
  exact Or.inl fun hmem => up_ne_tagStep tag (hup _ hmem)

/-- **From a relative directory an absolute model module is found** exactly if the steps up leave no
more of the current directory than the path of the module climbs. -/
theorem sourceLeads_of_absolute (layout : OutputLayout) (hdir : layout.dir.isAbsolute = false)
    (hmodel : layout.model.isAbsolute = true) (tag : String) (current : Place) :
    (tagDir layout tag).SourceLeads layout.model current ↔
      current.length ≤
        2 * layout.dir.steps.count .up + PathPart.climb layout.model.steps := by
  have hroot : PathPart.root ∉ layout.dir.steps ++ [tagStep tag] := fun hmem =>
    (List.mem_append.1 hmem).elim (Path.root_not_mem_steps hdir)
      fun hmem => root_ne_tagStep tag (List.mem_singleton.1 hmem)
  have hdown := Path.steps_of_absolute hmodel
  have hparting : Parting (tagDir layout tag).steps layout.model.steps []
      (layout.dir.steps ++ [tagStep tag]) (.root :: layout.model.inner) := by
    refine ⟨steps_tagDir layout tag, hdown, fun a ha b hb he => ?_⟩
    obtain rfl := Option.some.inj hb
    exact hroot (he ▸ List.mem_of_mem_head? ha)
  have hfilter : (.root :: layout.model.inner).filter (· ≠ .root) = layout.model.inner := by
    rw [List.filter_cons_of_neg (by decide), Path.filter_ne_root Path.root_not_mem_inner]
  have hcount : (layout.dir.steps ++ [tagStep tag]).count .up = layout.dir.steps.count .up := by
    rw [List.count_append, List.count_singleton, if_neg, Nat.add_zero]
    exact fun he => up_ne_tagStep tag (eq_of_beq he).symm
  -- the root gets lost in the source, and so its steps go on from where the steps up end
  rw [Path.sourceLeads_iff hparting hroot, hfilter, hcount, hdown]
  change _ = layout.model.inner.foldl PathPart.move [] ↔ _
  rw [PathPart.foldl_move_inj Path.root_not_mem_inner, PathPart.climb_root, List.foldl_nil,
    List.take_nil, List.take_take, List.take_eq_nil_iff, List.length_take,
    ← List.length_eq_zero_iff]
  omega

/-- **From an absolute directory an absolute model module is found** exactly if the directory has
no step up beyond the common beginning, or if the path of the module climbs over that beginning. -/
theorem exists_parting_of_absolute (layout : OutputLayout) (hdir : layout.dir.isAbsolute = true)
    (hmodel : layout.model.isAbsolute = true) (tag : String) (current : Place) :
    ∃ common up down, Parting (tagDir layout tag).steps layout.model.steps common up down ∧
      ((tagDir layout tag).SourceLeads layout.model current ↔
        .up ∉ up ∨ (common.foldl PathPart.move current).length ≤ PathPart.climb down) := by
  obtain ⟨common, up, down, hparting⟩ :=
    exists_parting (tagDir layout tag).steps layout.model.steps
  have hcommon : common ≠ [] := by
    rintro rfl
    -- both paths begin with the root
    have hup : up = .root :: (layout.dir.inner ++ [tagStep tag]) := by
      rw [← List.nil_append up, ← hparting.left, steps_tagDir, Path.steps_of_absolute hdir]
      rfl
    have hdown : down = .root :: layout.model.inner := by
      rw [← List.nil_append down, ← hparting.right, Path.steps_of_absolute hmodel]
    subst hup hdown
    exact hparting.apart _ rfl _ rfl rfl
  exact ⟨common, up, down, hparting, Path.sourceLeads_iff_of_root_not_mem hparting
    (Path.root_not_mem_rest hparting.left hcommon) (Path.root_not_mem_rest hparting.right hcommon)
    current⟩

/-- The source is a single step up exactly if the model module is the directory, one way or the
other. -/
theorem sourceParts_eq_up_iff {as bs common up down : List PathPart} {step : PathPart}
    (h : Parting (as ++ [step]) bs common up down) :
    Path.sourceParts up down = [.up] ↔ bs = as ∨ bs = as ++ [step, .up] := by
  constructor
  · intro hparts
    rcases up with _ | ⟨x, _ | ⟨y, up⟩⟩
    · obtain rfl : down = [.up] := hparts
      right
      rw [h.right, ← List.append_nil common, ← h.left]
      simp
    · obtain rfl : down = [] := (List.cons.inj hparts).2
      left
      rw [h.right, List.append_nil]
      exact (List.append_inj' h.left rfl).1.symm
    · cases (List.cons.inj hparts).2
  · rintro (rfl | rfl)
    · obtain ⟨rfl, rfl⟩ := h.unique ⟨rfl, (List.append_nil bs).symm, nofun⟩
      rfl
    · have hinside : Parting (as ++ [step]) (as ++ [step, .up]) (as ++ [step]) [] [.up] :=
        ⟨(List.append_nil _).symm, by simp, nofun⟩
      obtain ⟨rfl, rfl⟩ := h.unique hinside
      rfl

/-- The source begins with a name exactly if the model module lies in the directory of the tag. -/
theorem sourceParts_eq_name_iff {as bs common up down rest : List PathPart} {step : PathPart}
    {s : String} (h : Parting (as ++ [step]) bs common up down) :
    Path.sourceParts up down = .name s :: rest ↔ bs = as ++ step :: .name s :: rest := by
  constructor
  · intro hparts
    rcases up with _ | ⟨x, up⟩
    · obtain rfl : down = .name s :: rest := hparts
      rw [h.right, ← List.append_nil common, ← h.left]
      simp
    · cases (List.cons.inj hparts).1
  · rintro rfl
    have hinside : Parting (as ++ [step]) (as ++ step :: .name s :: rest) (as ++ [step]) []
        (.name s :: rest) := ⟨(List.append_nil _).symm, by simp, nofun⟩
    obtain ⟨rfl, rfl⟩ := h.unique hinside
    rfl

/-- **Which sources begin with `./` or `../`**: all but those of the directory itself, and of a
model module in the directory of the tag below a name that begins with two points. -/
theorem properSource_tagDir_iff (layout : OutputLayout) (tag : String) :
    Path.ProperSource ((tagDir layout tag).relativeSource layout.model) ↔
      layout.model.steps ≠ layout.dir.steps ∧
      layout.model.steps ≠ layout.dir.steps ++ [tagStep tag, .up] ∧
      ∀ s rest, layout.model.steps = layout.dir.steps ++ tagStep tag :: .name s :: rest →
        ¬ ['.', '.'] <+: s.toList := by
  obtain ⟨common, up, down, hparting⟩ :=
    exists_parting (tagDir layout tag).steps layout.model.steps
  have hhead : (Path.sourceParts up down).head? ≠ some .root := by
    intro hroot
    cases up with
    | nil =>
      have hcommon : common ≠ [] := by
        rintro rfl
        rw [steps_tagDir] at hparting
        exact absurd hparting.left (by simp)
      exact Path.root_not_mem_rest hparting.right hcommon (List.mem_of_mem_head? hroot)
    | cons x up => cases hroot
  rw [Path.relativeSource_eq hparting, Path.properSource_iff (Path.sourceParts_spec hparting) hhead]
  rw [steps_tagDir] at hparting
  simp only [ne_eq, sourceParts_eq_up_iff hparting, sourceParts_eq_name_iff hparting, not_or,
    and_assoc]

/-- **Where the imports of a tag lead.** For every layout, tag and current directory, a model module
that is not given by an absolute path is found by the source that the modules of the tag name. An
absolute one is found from a relative directory exactly if the current directory is no deeper than
twice the steps up of the directory and what the module's path climbs; from an absolute directory
exactly if that has no step up beyond the common beginning, or if the module's path climbs over it.
The source begins with `./` or `../` unless the model module is the directory itself, or lies in the
directory of the tag below a name that begins with two points. -/
theorem source_leads_iff (dir : Path) (model : Option Path) (tag : String) (current : Place) :
    ((∀ file ∈ model, file.isAbsolute = false) →
      (tagDir (.inDir dir model) tag).SourceLeads (OutputLayout.inDir dir model).model current) ∧
    (∀ file ∈ model, file.isAbsolute = true →
      (OutputLayout.inDir dir model).model = file ∧
      (dir.isAbsolute = false →
        ((tagDir (.inDir dir model) tag).SourceLeads file current ↔
          current.length ≤ 2 * dir.steps.count .up + PathPart.climb file.steps)) ∧
      (dir.isAbsolute = true →
        ∃ common up down, Parting (tagDir (.inDir dir model) tag).steps file.steps common up down ∧
          ((tagDir (.inDir dir model) tag).SourceLeads file current ↔
            .up ∉ up ∨ (common.foldl PathPart.move current).length ≤ PathPart.climb down))) ∧
    (Path.ProperSource ((tagDir (.inDir dir model) tag).relativeSource
        (OutputLayout.inDir dir model).model) ↔
      (OutputLayout.inDir dir model).model.steps ≠ dir.steps ∧
      (OutputLayout.inDir dir model).model.steps ≠ dir.steps ++ [tagStep tag, .up] ∧
      ∀ s rest,
        (OutputLayout.inDir dir model).model.steps = dir.steps ++ tagStep tag :: .name s :: rest →
          ¬ ['.', '.'] <+: s.toList) := by
  refine ⟨fun hfile => ?_, fun file hmodel hfile => ?_, properSource_tagDir_iff _ tag⟩
  · have hrelative : (model.getD defaultModelFile).isAbsolute = false := by
      cases model with
      | none => decide +kernel
      | some file => exact hfile file rfl
    exact sourceLeads_of_relative (.inDir dir model) rfl hrelative tag current
  · obtain rfl := hmodel
    have hjoin : (OutputLayout.inDir dir (some file)).model = file := Path.join_of_absolute dir hfile
    have habsolute : (OutputLayout.inDir dir (some file)).model.isAbsolute = true := by
      rw [hjoin, hfile]
    refine ⟨hjoin, fun hdir => ?_, fun hdir => ?_⟩
    · have hleads := sourceLeads_of_absolute (.inDir dir (some file)) hdir habsolute tag current
      rwa [hjoin] at hleads
    · have hleads := exists_parting_of_absolute (.inDir dir (some file)) hdir habsolute tag current
      rwa [hjoin] at hleads

/-- The default model module is found from everywhere; an absolute one from a relative directory is
not, unless the run is at the root. -/
theorem source_leads_api :
    (∀ current, (tagDir (.inDir ⟨"src/api"⟩ none) "pets").SourceLeads ⟨"src/api/model.ts"⟩
      current) ∧
    ∀ current, (tagDir (.inDir ⟨"src/api"⟩ (some ⟨"/abs/model.ts"⟩)) "pets").SourceLeads
      ⟨"/abs/model.ts"⟩ current ↔ current = [] := by
  refine ⟨fun current => (source_leads_iff ⟨"src/api"⟩ none "pets" current).1 nofun,
    fun current => ?_⟩
  have hfound := ((source_leads_iff ⟨"src/api"⟩ (some ⟨"/abs/model.ts"⟩) "pets" current).2.1 _ rfl
    (by decide +kernel)).2.1 (by decide +kernel)
  have hbound : 2 * (⟨"src/api"⟩ : Path).steps.count .up +
      PathPart.climb (⟨"/abs/model.ts"⟩ : Path).steps = 0 := by decide +kernel
  rw [hfound, hbound, Nat.le_zero, List.length_eq_zero_iff]

/-- The source that the modules of a tag `pets` name, and whether it leads to the model module. -/
def petsSource (dir : Path) (model : Path) (current : Place) : String × Bool :=
  let layout := OutputLayout.inDir dir (some model)
  ((tagDir layout "pets").relativeSource layout.model,
    (tagDir layout "pets").SourceLeads layout.model current)

/-- Sources that begin with two points but no slash, and sources that lead elsewhere. -/
theorem sources_astray :
    petsSource ⟨"api"⟩ ⟨"pets/..models.ts"⟩ ["work"] = ("..models.ts", true) ∧
    ¬ Path.ProperSource "..models.ts" ∧
    petsSource ⟨"api"⟩ ⟨""⟩ ["work"] = ("..", true) ∧ ¬ Path.ProperSource ".." ∧
    petsSource ⟨"src/api"⟩ ⟨"/abs/model.ts"⟩ ["work"] = ("../../..///abs/model.ts", false) ∧
    petsSource ⟨"/srv/api/../web"⟩ ⟨"/srv/models/model.ts"⟩ ["work"] =
      ("../../../../models/model.ts", false) := by
  decide +kernel

end Request

end TypedRequests
