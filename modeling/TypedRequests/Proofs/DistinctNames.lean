import Mathlib.Data.List.Nodup
import TypedRequests.Names

/-!
# Fresh names

Whatever names are asked for, and in whatever order, each answer is new, and it is the plainest one
that is: the base, the base with the route parameters, or the least number that makes it free.

* `exists_free` : there are not enough taken names for all.
* `LeastNumbered`, `numbered_spec` : the search for a number ends, with the least one that is free.
* `FunctionAnswer`, `TypeAnswer` : how a name is answered, by what is taken before.
* `NameCall`, `Names.answers` : a sequence of questions with its answers.
* `Names.RunInv` : what holds after some of them, with `Names.start_inv`, `Names.answer_inv` and,
  over a whole sequence, `Names.answers_inv`.
* `FreshAnswers`, `Names.freshAnswers` : what this means for every sequence.
-/

set_option autoImplicit false

namespace TypedRequests

/-- Among more different names than there are taken ones, one is free. -/
theorem exists_free {names : Nat → String} (hnames : Function.Injective names)
    (taken : List String) : ∃ k, k ≤ taken.length ∧ names k ∉ taken := by
  by_contra hall
  have hsub : (List.range (taken.length + 1)).map names ⊆ taken := by
    intro name hname
    obtain ⟨k, hk, rfl⟩ := List.mem_map.1 hname
    by_contra hfree
    exact hall ⟨k, Nat.le_of_lt_succ (List.mem_range.1 hk), hfree⟩
  have hlength := (List.nodup_range.map hnames).length_le_of_subset hsub
  rw [List.length_map, List.length_range] at hlength
  omega

/-- A search through different names ends at a free one, if it goes on as long as there may be
taken ones. -/
theorem free_of_search {names : Nat → String} (hnames : Function.Injective names)
    {taken : List String} {k : Nat} (hk : k ≤ taken.length) (hbefore : ∀ j, j < k → names j ∈ taken)
    (hstop : k < taken.length → names k ∉ taken) : names k ∉ taken := by
  obtain ⟨i, hi, hfree⟩ := exists_free hnames taken
  rcases Nat.lt_or_ge i k with hlt | hge
  · exact absurd (hbefore i hlt) hfree
  · rcases Nat.eq_or_lt_of_le hge with rfl | hlt
    · exact hfree
    · exact hstop (by omega)

/-! ## Numbers after a stem -/

/-- Numbers after a stem tell names apart. -/
theorem append_number_injective {stem : String} {m n : Nat}
    (h : stem ++ toString m = stem ++ toString n) : m = n := by
  have hlists := congrArg String.toList h
  rw [String.toList_append, String.toList_append] at hlists
  have hdigits := List.append_cancel_left hlists
  rw [Nat.toString_eq_ofList_toDigits, Nat.toString_eq_ofList_toDigits, String.toList_ofList,
    String.toList_ofList] at hdigits
  have hread := congrArg (fun ds => Nat.ofDigitChars 10 ds 0) hdigits
  simpa only [Nat.ofDigitChars_ten_toDigits] using hread

/-- The search stops at a number. All before it are taken, and unless the search was given up its
name is free. -/
theorem numberedFrom_spec (taken : List String) (stem : String) (n steps : Nat) :
    ∃ k, k ≤ steps ∧ numberedFrom taken stem n steps = stem ++ toString (n + k) ∧
      (∀ i, i < k → stem ++ toString (n + i) ∈ taken) ∧
      (k < steps → stem ++ toString (n + k) ∉ taken) := by
  induction steps generalizing n with
  | zero => exact ⟨0, Nat.le_refl 0, rfl, nofun, nofun⟩
  | succ steps ih =>
    unfold numberedFrom
    by_cases hn : stem ++ toString n ∈ taken
    · obtain ⟨k, hk, hname, hbefore, hstop⟩ := ih (n + 1)
      have hshift : ∀ i, n + 1 + i = n + (i + 1) := by omega
      simp only [hshift] at hname hbefore hstop
      rw [if_pos (List.contains_iff_mem.2 hn)]
      refine ⟨k + 1, by omega, hname, fun i hi => ?_, fun hlt => hstop (by omega)⟩
      cases i with
      | zero => exact hn
      | succ i => exact hbefore i (by omega)
    · rw [if_neg (mt List.contains_iff_mem.1 hn)]
      exact ⟨0, by omega, rfl, nofun, fun _ => hn⟩

/-- The name is the stem with the least number from 2 on that is not taken. It is found among as
many candidates as there are taken names, and one more. -/
def LeastNumbered (taken : List String) (stem name : String) : Prop :=
  ∃ n, 2 ≤ n ∧ n ≤ taken.length + 2 ∧ name = stem ++ toString n ∧ name ∉ taken ∧
    ∀ k, 2 ≤ k → k < n → stem ++ toString k ∈ taken

/-- **The search for a number ends at the least one that is free.** -/
theorem numbered_spec (taken : List String) (stem : String) :
    LeastNumbered taken stem (numbered taken stem) := by
  obtain ⟨k, hk, hname, hbefore, hstop⟩ := numberedFrom_spec taken stem 2 taken.length
  have hinjective : Function.Injective fun k => stem ++ toString (2 + k) := fun i j hij =>
    Nat.add_left_cancel (append_number_injective hij)
  refine ⟨2 + k, by omega, by omega, hname, ?_, fun i hi hik => ?_⟩
  · rw [numbered, hname]
    exact free_of_search hinjective hk hbefore hstop
  · obtain ⟨j, rfl⟩ := Nat.exists_eq_add_of_le hi
    exact hbefore j (by omega)

theorem LeastNumbered.not_mem {taken : List String} {stem name : String}
    (h : LeastNumbered taken stem name) : name ∉ taken := by
  obtain ⟨_, _, _, _, hfree, _⟩ := h
  exact hfree

/-- The order of the taken names does not matter. -/
theorem LeastNumbered.perm {taken taken' : List String} {stem name : String}
    (h : LeastNumbered taken stem name) (hp : taken.Perm taken') :
    LeastNumbered taken' stem name := by
  obtain ⟨n, hle, hbound, hname, hfree, hbefore⟩ := h
  exact ⟨n, hle, hp.length_eq ▸ hbound, hname, mt hp.mem_iff.2 hfree,
    fun k hk hkn => hp.mem_iff.1 (hbefore k hk hkn)⟩

/-! ## Answers -/

/-- The name of a function with a base and route parameters, by the names that are taken. -/
inductive FunctionAnswer (taken : List String) (base : String) (routeNames : List String) :
    String → Prop where
  | base (hfree : base ∉ taken) : FunctionAnswer taken base routeNames base
  | byParameters (hbase : base ∈ taken) (hroute : routeNames ≠ [])
      (hfree : Names.byParameters base routeNames ∉ taken) :
      FunctionAnswer taken base routeNames (Names.byParameters base routeNames)
  | numbered {name : String} (hbase : base ∈ taken) (hroute : routeNames = [])
      (hname : LeastNumbered taken base name) : FunctionAnswer taken base routeNames name
  | numberedByParameters {name : String} (hbase : base ∈ taken) (hroute : routeNames ≠ [])
      (htaken : Names.byParameters base routeNames ∈ taken)
      (hname : LeastNumbered taken (Names.byParameters base routeNames) name) :
      FunctionAnswer taken base routeNames name

/-- The name of a type with a base, by the names that are taken. -/
inductive TypeAnswer (taken : List String) (base : String) : String → Prop where
  | base (hfree : base ∉ taken) : TypeAnswer taken base base
  | numbered {name : String} (hbase : base ∈ taken) (hname : LeastNumbered taken base name) :
      TypeAnswer taken base name

section Answers

variable {taken taken' : List String} {base name : String} {routeNames : List String}

theorem FunctionAnswer.not_mem (h : FunctionAnswer taken base routeNames name) :
    name ∉ taken := by
  cases h with
  | base hfree => exact hfree
  | byParameters _ _ hfree => exact hfree
  | numbered _ _ hname => exact hname.not_mem
  | numberedByParameters _ _ _ hname => exact hname.not_mem

theorem TypeAnswer.not_mem (h : TypeAnswer taken base name) : name ∉ taken := by
  cases h with
  | base hfree => exact hfree
  | numbered _ hname => exact hname.not_mem

theorem FunctionAnswer.perm (h : FunctionAnswer taken base routeNames name)
    (hp : taken.Perm taken') : FunctionAnswer taken' base routeNames name := by
  cases h with
  | base hfree => exact .base (mt hp.mem_iff.2 hfree)
  | byParameters hbase hroute hfree =>
    exact .byParameters (hp.mem_iff.1 hbase) hroute (mt hp.mem_iff.2 hfree)
  | numbered hbase hroute hname => exact .numbered (hp.mem_iff.1 hbase) hroute (hname.perm hp)
  | numberedByParameters hbase hroute htaken hname =>
    exact .numberedByParameters (hp.mem_iff.1 hbase) hroute (hp.mem_iff.1 htaken) (hname.perm hp)

theorem TypeAnswer.perm (h : TypeAnswer taken base name) (hp : taken.Perm taken') :
    TypeAnswer taken' base name := by
  cases h with
  | base hfree => exact .base (mt hp.mem_iff.2 hfree)
  | numbered hbase hname => exact .numbered (hp.mem_iff.1 hbase) (hname.perm hp)

end Answers

namespace Names

theorem functionName_spec (names : Names) (base : String) (routeNames : List String) :
    FunctionAnswer names.taken base routeNames (names.functionName base routeNames) := by
  unfold functionName
  simp only [List.contains_iff_mem, List.isEmpty_iff]
  by_cases hbase : base ∈ names.taken
  · rw [if_pos hbase]
    by_cases hroute : routeNames = []
    · rw [if_pos hroute]
      exact .numbered hbase hroute (numbered_spec names.taken base)
    · rw [if_neg hroute]
      by_cases hby : byParameters base routeNames ∈ names.taken
      · rw [if_pos hby]
        exact .numberedByParameters hbase hroute hby (numbered_spec names.taken _)
      · rw [if_neg hby]
        exact .byParameters hbase hroute hby
  · rw [if_neg hbase]
    exact .base hbase

theorem typeName_spec (names : Names) (base : String) :
    TypeAnswer names.types base (names.typeName base) := by
  unfold typeName
  simp only [List.contains_iff_mem]
  by_cases hbase : base ∈ names.types
  · rw [if_pos hbase]
    exact .numbered hbase (numbered_spec names.types base)
  · rw [if_neg hbase]
    exact .base hbase

end Names

/-! ## Sequences of questions -/

/-- A question for a name. -/
inductive NameCall where
  | function (base : String) (routeNames : List String)
  | type (base : String)
deriving DecidableEq, Repr

/-- The names that were answered for functions. -/
def functionAnswers (done : List (NameCall × String)) : List String :=
  done.filterMap fun
    | (.function .., name) => some name
    | (.type _, _) => none

/-- The names that were answered for types. -/
def typeAnswers (done : List (NameCall × String)) : List String :=
  done.filterMap fun
    | (.function .., _) => none
    | (.type _, name) => some name

section Done

variable (done : List (NameCall × String)) (base name : String) (routeNames : List String)

@[simp] theorem functionAnswers_function :
    functionAnswers (done ++ [(.function base routeNames, name)]) =
      functionAnswers done ++ [name] := by
  simp [functionAnswers]

@[simp] theorem functionAnswers_type :
    functionAnswers (done ++ [(.type base, name)]) = functionAnswers done := by
  simp [functionAnswers]

@[simp] theorem typeAnswers_function :
    typeAnswers (done ++ [(.function base routeNames, name)]) = typeAnswers done := by
  simp [typeAnswers]

@[simp] theorem typeAnswers_type :
    typeAnswers (done ++ [(.type base, name)]) = typeAnswers done ++ [name] := by
  simp [typeAnswers]

end Done

/-- The answer to a question, by the model types and what was answered before. -/
def NameCall.Answer (modelTypes : List String) (done : List (NameCall × String)) :
    NameCall → String → Prop
  | .function base routeNames => FunctionAnswer (functionAnswers done) base routeNames
  | .type base => TypeAnswer (typeAnswers done ++ modelTypes) base

namespace Names

/-- The answer to a question, and the names taken afterwards. -/
def answer (names : Names) : NameCall → String × Names
  | .function base routeNames => names.claim base routeNames
  | .type base => names.claimType base

/-- The answers to questions, one after the other. -/
def answers (names : Names) : List NameCall → List (NameCall × String)
  | [] => []
  | c :: cs => (c, (names.answer c).1) :: (names.answer c).2.answers cs

theorem nodup_append_new {xs : List String} {a : String} (h : xs.Nodup) (ha : a ∉ xs) :
    (xs ++ [a]).Nodup := by
  refine List.nodup_append.2 ⟨h, List.pairwise_singleton _ _, ?_⟩
  rintro b hb c hc rfl
  exact ha (List.mem_singleton.1 hc ▸ hb)

/-- What holds after some answers: exactly they are taken, besides the model types. -/
structure RunInv (modelTypes : List String) (done : List (NameCall × String)) (names : Names) :
    Prop where
  taken : names.taken = (functionAnswers done).reverse
  types : names.types = (typeAnswers done).reverse ++ modelTypes
  functions : (functionAnswers done).Nodup
  queries : (typeAnswers done).Nodup
  shadows : ∀ name ∈ typeAnswers done, name ∉ modelTypes

variable {modelTypes : List String} {done : List (NameCall × String)} {names : Names}

theorem start_inv (modelTypes : List String) : RunInv modelTypes [] (ofModelTypes modelTypes) :=
  ⟨rfl, rfl, List.nodup_nil, List.nodup_nil, fun _ h => by cases h⟩

theorem RunInv.answer_spec (h : RunInv modelTypes done names) (c : NameCall) :
    c.Answer modelTypes done (names.answer c).1 := by
  cases c with
  | function base routeNames =>
    have hspec := names.functionName_spec base routeNames
    rw [h.taken] at hspec
    exact hspec.perm (List.reverse_perm _)
  | type base =>
    have hspec := names.typeName_spec base
    rw [h.types] at hspec
    exact hspec.perm ((List.reverse_perm _).append_right _)

/-- **One answer keeps the invariant.** -/
theorem answer_inv (h : RunInv modelTypes done names) (c : NameCall) :
    RunInv modelTypes (done ++ [(c, (names.answer c).1)]) (names.answer c).2 := by
  have hspec := h.answer_spec c
  generalize hname : (names.answer c).1 = name at hspec ⊢
  cases c with
  | function base routeNames =>
    have hnew : name ∉ functionAnswers done := FunctionAnswer.not_mem hspec
    refine ⟨?_, ?_, ?_, ?_, ?_⟩
    · rw [functionAnswers_function, List.reverse_append, ← h.taken, ← hname]
      rfl
    · rw [typeAnswers_function, ← h.types]
      rfl
    · rw [functionAnswers_function]
      exact nodup_append_new h.functions hnew
    · rw [typeAnswers_function]
      exact h.queries
    · rw [typeAnswers_function]
      exact h.shadows
  | type base =>
    have hnew : name ∉ typeAnswers done ++ modelTypes := TypeAnswer.not_mem hspec
    rw [List.mem_append, not_or] at hnew
    refine ⟨?_, ?_, ?_, ?_, ?_⟩
    · rw [functionAnswers_type, ← h.taken]
      rfl
    · rw [typeAnswers_type, List.reverse_append, List.append_assoc, ← h.types, ← hname]
      rfl
    · rw [functionAnswers_type]
      exact h.functions
    · rw [typeAnswers_type]
      exact nodup_append_new h.queries hnew.1
    · rw [typeAnswers_type]
      intro a ha
      rcases List.mem_append.1 ha with ha | ha
      · exact h.shadows a ha
      · obtain rfl := List.mem_singleton.1 ha
        exact hnew.2

/-- **A whole sequence keeps the invariant**, and each of its answers is the one that is due after
those before it. -/
theorem answers_inv (h : RunInv modelTypes done names) (cs : List NameCall) :
    (∃ names', RunInv modelTypes (done ++ names.answers cs) names') ∧
      ∀ before c name after, names.answers cs = before ++ (c, name) :: after →
        c.Answer modelTypes (done ++ before) name := by
  induction cs generalizing done names with
  | nil =>
    refine ⟨⟨names, by simpa [answers] using h⟩, fun before c name after heq => ?_⟩
    simp [answers] at heq
  | cons c cs ih =>
    obtain ⟨hinv, hanswers⟩ := ih (answer_inv h c)
    rw [← List.append_cons] at hinv
    refine ⟨hinv, fun before c' name after heq => ?_⟩
    cases before with
    | nil =>
      rw [answers, List.nil_append] at heq
      obtain ⟨he, -⟩ := List.cons.inj heq
      cases he
      rw [List.append_nil]
      exact h.answer_spec c
    | cons b before =>
      rw [answers, List.cons_append] at heq
      obtain ⟨hb, heq⟩ := List.cons.inj heq
      rw [List.append_cons, ← hb]
      exact hanswers before c' name after heq

theorem map_fst_answers (names : Names) (cs : List NameCall) :
    (names.answers cs).map Prod.fst = cs := by
  induction cs generalizing names with
  | nil => rfl
  | cons c cs ih =>
    rw [answers, List.map_cons, ih]

end Names

/-- The questions have fresh answers: no function has the name of another, no type that of another
or of a model type, and each name is the plainest one after those before it. -/
structure FreshAnswers (modelTypes : List String) (calls : List NameCall)
    (run : List (NameCall × String)) : Prop where
  asked : run.map Prod.fst = calls
  functions : (functionAnswers run).Nodup
  types : (typeAnswers run).Nodup
  shadows : ∀ name ∈ typeAnswers run, name ∉ modelTypes
  plainest : ∀ before call name after, run = before ++ (call, name) :: after →
    call.Answer modelTypes before name

/-- **Every sequence of questions has fresh answers.** -/
theorem Names.freshAnswers (modelTypes : List String) (calls : List NameCall) :
    FreshAnswers modelTypes calls ((ofModelTypes modelTypes).answers calls) := by
  obtain ⟨⟨names', hinv⟩, hanswers⟩ := answers_inv (start_inv modelTypes) calls
  exact ⟨map_fst_answers _ calls, hinv.functions, hinv.queries, hinv.shadows, hanswers⟩

example : ((Names.ofModelTypes ["PetQuery"]).answers
    [.function "pet" [], .function "pet" ["id"], .function "pet" [], .type "PetQuery"]).map
      Prod.snd = ["pet", "petById", "pet2", "PetQuery2"] := by
  decide +kernel

end TypedRequests
