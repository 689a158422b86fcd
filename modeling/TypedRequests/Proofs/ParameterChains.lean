import Mathlib.Logic.Relation
import TypedRequests.OpenApi.Document

/-!
# Chains of references

An entry of a parameter list stands for the parameter to which its references lead, however many
there are. It stands for none exactly if they lead to something else, nowhere, or in a circle.

* `Document.LeadsTo`, `Document.Chain` : one step from a reference to what it names, and any number.
* `Document.Stuck` : an entry from which no chain leads to a parameter.
* `Document.Underway`, `Document.Underway.follow` : what holds during a search, and that one more
  reference keeps it; `Document.Underway.outcome` : what this means for the end of the search.
* `Document.parameter?_eq_some_iff` : the parameter is the one at the end of the chain.
* `Document.resolves_along_chains` : an entry stands for the parameter at the end of its chain.
-/

set_option autoImplicit false

namespace TypedRequests.OpenApi.Document

variable {d : Document} {origin entry e : ParameterEntry} {followed : List String} {r : String}
  {p : Parameter}

/-! ## Chains -/

/-- A reference leads to the named parameter whose name stands behind
`#/components/parameters/`. -/
inductive LeadsTo (d : Document) : ParameterEntry → ParameterEntry → Prop where
  | reference {name : String} {entry : ParameterEntry} (h : (name, entry) ∈ d.namedParameters) :
      LeadsTo d (.reference (parameterPrefix ++ name)) entry

/-- A chain of references, which may be empty, leads from one entry to the other. -/
abbrev Chain (d : Document) : ParameterEntry → ParameterEntry → Prop :=
  Relation.ReflTransGen d.LeadsTo

/-- References lead from the entry back to it. -/
def Circular (d : Document) (entry : ParameterEntry) : Prop :=
  Relation.TransGen d.LeadsTo entry entry

/-- No chain leads from the entry to a parameter: it is no parameter, a reference to a name that no
parameter has, a reference to something else, or a part of a circle. -/
inductive Stuck (d : Document) : ParameterEntry → Prop where
  | malformed (v : Json) : Stuck d (.malformed v)
  | unnamed {name : String} (h : name ∉ Entries.keys d.namedParameters) :
      Stuck d (.reference (parameterPrefix ++ name))
  | elsewhere {r : String} (h : ¬ parameterPrefix.toList <+: r.toList) : Stuck d (.reference r)
  | circular {entry : ParameterEntry} (h : d.Circular entry) : Stuck d entry

theorem nodup_namedParameters (d : Document) : (Entries.keys d.namedParameters).Nodup := by
  unfold namedParameters
  cases d.components with
  | none => exact List.nodup_nil
  | some c => exact c.parameters.distinct

theorem stripPrefix?_parameterPrefix (name : String) :
    Text.stripPrefix? parameterPrefix.toList (parameterPrefix ++ name).toList =
      some name.toList :=
  Text.stripPrefix?_eq_some_iff.2 String.toList_append

/-- **A reference leads to its target, and to nothing else.** -/
theorem target?_eq_some_iff : d.target? r = some e ↔ d.LeadsTo (.reference r) e := by
  constructor
  · intro h
    unfold target? at h
    split at h
    · rename_i name hname
      rw [eq_of_stripPrefix? hname]
      exact .reference ((Entries.find?_eq_some_iff d.nodup_namedParameters).1 h)
    · cases h
  · rintro ⟨h⟩
    simp only [target?, stripPrefix?_parameterPrefix, String.ofList_toList]
    exact (Entries.find?_eq_some_iff d.nodup_namedParameters).2 h

/-- A reference without target is stuck. -/
theorem stuck_of_target? (h : d.target? r = none) : d.Stuck (.reference r) := by
  unfold target? at h
  split at h
  · rename_i name hname
    rw [eq_of_stripPrefix? hname]
    refine .unnamed fun hkey => ?_
    rw [← Entries.isSome_find?_iff, h] at hkey
    cases hkey
  · rename_i hnone
    refine .elsewhere fun hprefix => ?_
    obtain ⟨rest, hrest⟩ := hprefix
    rw [Text.stripPrefix?_eq_some_iff.2 hrest.symm] at hnone
    cases hnone

/-! ## Entries without a parameter -/

theorem LeadsTo.unique {e' : ParameterEntry} (h : d.LeadsTo entry e) (h' : d.LeadsTo entry e') :
    e = e' := by
  cases entry with
  | reference r => exact Option.some.inj ((target?_eq_some_iff.2 h).symm.trans
      (target?_eq_some_iff.2 h'))
  | inline p => cases h
  | malformed v => cases h

theorem Chain.eq_of_inline (h : d.Chain (.inline p) e) : e = .inline p := by
  rcases h.cases_head with rfl | ⟨_, hstep, _⟩
  · rfl
  · cases hstep

/-- A circle is never left. -/
theorem Circular.chain (h : d.Circular entry) (hchain : d.Chain entry e) : d.Circular e := by
  induction hchain with
  | refl => exact h
  | tail _ hstep ih =>
    obtain ⟨e', hstep', hback⟩ := Relation.TransGen.head'_iff.1 ih
    obtain rfl := hstep.unique hstep'
    exact Relation.TransGen.tail' hback hstep

/-- **No chain leads from a stuck entry to a parameter.** -/
theorem Stuck.not_chain (h : d.Stuck entry) : ¬ d.Chain entry (.inline p) := by
  intro hchain
  cases h with
  | malformed v =>
    rcases hchain.cases_head with h | ⟨_, hstep, _⟩
    · cases h
    · cases hstep
  | unnamed hname =>
    rcases hchain.cases_head with h | ⟨_, hstep, _⟩
    · cases h
    · have htarget := target?_eq_some_iff.2 hstep
      simp only [target?, stripPrefix?_parameterPrefix, String.ofList_toList] at htarget
      exact hname (Entries.isSome_find?_iff.1 (Option.isSome_of_eq_some htarget))
  | elsewhere hprefix =>
    rcases hchain.cases_head with h | ⟨_, hstep, _⟩
    · cases h
    · cases hstep
      exact hprefix ⟨_, String.toList_append.symm⟩
  | circular hcircle =>
    obtain ⟨_, hstep, _⟩ := Relation.TransGen.head'_iff.1 (hcircle.chain hchain)
    cases hstep

/-- The chain of an entry does not branch. -/
theorem Chain.total {e' : ParameterEntry} (h : d.Chain entry e) (h' : d.Chain entry e') :
    d.Chain e e' ∨ d.Chain e' e :=
  Relation.ReflTransGen.total_of_right_unique (fun _ _ _ => LeadsTo.unique) h h'

theorem Chain.inline_unique {q : Parameter} (h : d.Chain entry (.inline p))
    (h' : d.Chain entry (.inline q)) : p = q := by
  rcases h.total h' with h | h
  · cases h.eq_of_inline
    rfl
  · cases h.eq_of_inline
    rfl

theorem Chain.not_stuck (h : d.Chain entry (.inline p)) (he : d.Chain entry e) : ¬ d.Stuck e := by
  intro hstuck
  rcases h.total he with h | h
  · rw [Chain.eq_of_inline h] at hstuck
    exact hstuck.not_chain (p := p) Relation.ReflTransGen.refl
  · exact hstuck.not_chain h

/-! ## Searching -/

/-- A search from `origin` has come to `entry` over the followed references: all stand on the way,
no two are alike, each has a target, and each leads on to where the search is now. -/
structure Underway (d : Document) (origin : ParameterEntry) (followed : List String)
    (entry : ParameterEntry) : Prop where
  reached : d.Chain origin entry
  passed : ∀ r ∈ followed, d.Chain origin (.reference r)
  onward : ∀ r ∈ followed, Relation.TransGen d.LeadsTo (.reference r) entry
  distinct : followed.Nodup
  known : ∀ r ∈ followed, r ∈ d.parameterReferences

theorem Underway.init (d : Document) (entry : ParameterEntry) : d.Underway entry [] entry :=
  ⟨.refl, nofun, nofun, List.nodup_nil, nofun⟩

/-- **One more reference keeps what holds during a search.** -/
theorem Underway.follow (h : d.Underway origin followed (.reference r)) (hnew : r ∉ followed)
    (htarget : d.target? r = some e) : d.Underway origin (r :: followed) e := by
  have hstep : d.LeadsTo (.reference r) e := target?_eq_some_iff.1 htarget
  refine ⟨h.reached.tail hstep, ?_, ?_, List.nodup_cons.2 ⟨hnew, h.distinct⟩, ?_⟩
  · exact List.forall_mem_cons.2 ⟨h.reached, h.passed⟩
  · exact List.forall_mem_cons.2 ⟨.single hstep, fun r' hr' => (h.onward r' hr').tail hstep⟩
  · exact List.forall_mem_cons.2 ⟨mem_parameterReferences_of_target? htarget, h.known⟩

/-- How a search from `origin` may end: with the parameter at the end of the chain, or because the
chain comes to an entry that is stuck. It follows no reference twice, and at most one more than
there are named parameters. -/
structure Outcome (d : Document) (origin : ParameterEntry) (s : Search) : Prop where
  found : ∀ p, s.found = some p → d.Chain origin (.inline p)
  stuck : s.found = none → ∃ e, d.Chain origin e ∧ d.Stuck e
  passed : ∀ r ∈ s.followed, d.Chain origin (.reference r)
  distinct : s.followed.Nodup
  length : s.followed.length ≤ d.namedParameters.length + 1

theorem Underway.length_le (h : d.Underway origin followed entry) :
    followed.length ≤ d.namedParameters.length := by
  have hlength := h.distinct.length_le_of_subset h.known
  rwa [parameterReferences, List.length_map] at hlength

/-- **Every search ends with the parameter of the chain or at a stuck entry.** -/
theorem Underway.outcome (h : d.Underway origin followed entry) :
    d.Outcome origin (d.search followed entry) := by
  have hlength := h.length_le
  fun_induction d.search followed entry with
  | case1 followed p =>
    refine ⟨fun q hq => ?_, nofun, h.passed, h.distinct, Nat.le_succ_of_le hlength⟩
    cases hq
    exact h.reached
  | case2 followed v =>
    exact ⟨nofun, fun _ => ⟨_, h.reached, .malformed v⟩, h.passed, h.distinct,
      Nat.le_succ_of_le hlength⟩
  | case3 followed r hseen =>
    -- a reference that was followed before leads on to itself
    exact ⟨nofun, fun _ => ⟨_, h.reached, .circular (h.onward r hseen)⟩, h.passed, h.distinct,
      Nat.le_succ_of_le hlength⟩
  | case4 followed r hnew hnone =>
    exact ⟨nofun, fun _ => ⟨_, h.reached, stuck_of_target? hnone⟩,
      List.forall_mem_cons.2 ⟨h.reached, h.passed⟩, List.nodup_cons.2 ⟨hnew, h.distinct⟩,
      Nat.succ_le_succ hlength⟩
  | case5 followed r hnew e htarget ih =>
    have hnext := h.follow hnew htarget
    exact ih hnext hnext.length_le

theorem outcome_search (d : Document) (entry : ParameterEntry) :
    d.Outcome entry (d.search [] entry) :=
  (Underway.init d entry).outcome

/-- **An entry stands for the parameter to which a chain of references leads.** -/
theorem parameter?_eq_some_iff : d.parameter? entry = some p ↔ d.Chain entry (.inline p) := by
  refine ⟨(outcome_search d entry).found p, fun hchain => ?_⟩
  cases hfound : d.parameter? entry with
  | none =>
    obtain ⟨e, he, hstuck⟩ := (outcome_search d entry).stuck hfound
    exact absurd hstuck (hchain.not_stuck he)
  | some q => rw [hchain.inline_unique ((outcome_search d entry).found q hfound)]

/-- An entry stands for no parameter exactly if its chain comes to a stuck entry. -/
theorem parameter?_eq_none_iff :
    d.parameter? entry = none ↔ ∃ e, d.Chain entry e ∧ d.Stuck e := by
  refine ⟨(outcome_search d entry).stuck, ?_⟩
  rintro ⟨e, he, hstuck⟩
  cases hfound : d.parameter? entry with
  | none => rfl
  | some p => exact absurd hstuck ((parameter?_eq_some_iff.1 hfound).not_stuck he)

/-- **Entries resolve exactly along finite chains.** An entry stands for a parameter exactly if a
chain of references, each to the named parameter of its name, leads from the entry to that
parameter. It stands for none exactly if its chain comes to something that is no parameter, to a
reference that names none, or into a circle. The search follows references of this chain only, none
twice, and at most one more than there are named parameters. -/
theorem resolves_along_chains (d : Document) (entry : ParameterEntry) :
    (∀ p, d.parameter? entry = some p ↔ d.Chain entry (.inline p)) ∧
      (d.parameter? entry = none ↔ ∃ e, d.Chain entry e ∧ d.Stuck e) ∧
      (∀ r ∈ (d.search [] entry).followed, d.Chain entry (.reference r)) ∧
      (d.search [] entry).followed.Nodup ∧
      (d.search [] entry).followed.length ≤ d.namedParameters.length + 1 := by
  have houtcome := outcome_search d entry
  exact ⟨fun _ => parameter?_eq_some_iff, parameter?_eq_none_iff, houtcome.passed,
    houtcome.distinct, houtcome.length⟩

/-- The bound is attained where the last of all named parameters refers to one that is missing. -/
example :
    let d : Document := { Document.empty with components := some ⟨none, .ofPairs
      [("limit", .reference "#/components/parameters/size"),
        ("size", .reference "#/components/parameters/count")]⟩ }
    (d.search [] (.reference "#/components/parameters/limit")).followed.length =
      d.namedParameters.length + 1 := by
  decide +kernel

end TypedRequests.OpenApi.Document
