import TypedRequests.Proofs.Declarations

/-!
# How generated names begin

The name of a function begins with the method, and so with a small letter; an underscore may stand
before it. The name of a query type begins with a capital. Disambiguation only appends to a name,
and so no function ever has the name of a query type.

* `Text.words_eq_cons` : the first word begins where the text does.
* `Text.head_lowerCamel`, `Text.head_pascal` : casing keeps or raises a small letter in front.
* `BeginsSmall`, `BeginsCapital` : how a name begins; both outlast what is appended.
* `Naming.beginsSmall_functionName`, `Naming.beginsCapital_queryTypeName` : names before they are
  made distinct.
* `Request.Emits.beginsSmall`, `Request.Emits.beginsCapital` : names of the functions and query
  types of a module.
-/

set_option autoImplicit false

namespace TypedRequests

namespace Text

/-! ## The first word -/

/-- Characters that were read for a word stand at its beginning. -/
theorem wordsFrom_eq_cons (mode : CaseMode) {word : List Char} (hword : word ≠ [])
    (cs : List Char) : ∃ w ws, wordsFrom mode word cs = (word.reverse ++ w) :: ws := by
  induction cs generalizing mode word with
  | nil => exact ⟨[], [], by simp [wordsFrom, closeWord, hword]⟩
  | cons c cs ih =>
    unfold wordsFrom
    split
    · split
      · exact ⟨[c], _, by rw [List.reverse_cons]⟩
      · split
        · exact ⟨[], _, by rw [List.append_nil]⟩
        · obtain ⟨w, ws, h⟩ := ih (mode.after c) (List.cons_ne_nil c word)
          exact ⟨c :: w, ws, by rw [h, List.reverse_cons, List.append_assoc]; rfl⟩
    · exact ⟨[], _, by rw [closeWord, if_neg hword, List.append_nil]; rfl⟩

/-- **The first word of a text begins where the text does**, unless that is no letter or number. -/
theorem words_eq_cons {c : Char} (hc : isAlphanumeric c = true) (cs : List Char) :
    ∃ w ws, words (c :: cs) = (c :: w) :: ws := by
  unfold words wordsFrom
  rw [if_pos hc]
  split
  · exact ⟨[], _, rfl⟩
  · rw [if_neg (by simp)]
    obtain ⟨w, ws, h⟩ := wordsFrom_eq_cons (CaseMode.fresh.after c) (List.cons_ne_nil c []) cs
    exact ⟨w, ws, h⟩

/-- A character between words is skipped. -/
theorem words_cons_of_separator {c : Char} (hc : isAlphanumeric c = false) (cs : List Char) :
    words (c :: cs) = words cs := by
  rw [words, wordsFrom, hc]
  rfl

/-! ## Small letters in front -/

variable {c : Char}

theorem toNat_lt_of_isLower (hc : c.isLower = true) : c.toNat < 128 := by
  have hrange : (decide (c.val ≥ 'a'.val) && decide (c.val ≤ 'z'.val)) = true := hc
  rw [Bool.and_eq_true, decide_eq_true_eq, decide_eq_true_eq] at hrange
  have hle : c.val.toNat ≤ 122 := UInt32.le_iff_toNat_le.1 hrange.2
  show c.val.toNat < 128
  omega

/-- What holds of every small letter may be checked on the ASCII codes. -/
theorem forall_isLower {P : Char → Prop}
    (h : ∀ n < 128, (Char.ofNat n).isLower = true → P (Char.ofNat n)) (hc : c.isLower = true) :
    P c :=
  forall_ascii (P := fun c => c.isLower = true → P c) h (toNat_lt_of_isLower hc) hc

theorem isAlphanumeric_of_isLower (hc : c.isLower = true) : isAlphanumeric c = true := by
  rw [isAlphanumeric_ascii (toNat_lt_of_isLower hc)]
  show (c.isUpper || c.isLower || c.isDigit) = true
  simp [hc]

theorem lowerOf_of_isLower (hc : c.isLower = true) : lowerOf c = [c] := by
  have hlower : c.toLower = c := forall_isLower (P := fun c => c.toLower = c) (by decide +kernel) hc
  rw [lowerOf, if_pos (toNat_lt_of_isLower hc), hlower]

theorem upperOf_of_isLower (hc : c.isLower = true) : upperOf c = [c.toUpper] := by
  rw [upperOf, if_pos (toNat_lt_of_isLower hc)]

theorem isUpper_toUpper (hc : c.isLower = true) : c.toUpper.isUpper = true :=
  forall_isLower (P := fun c => c.toUpper.isUpper = true) (by decide +kernel) hc

theorem not_isUpper_of_isLower (hc : c.isLower = true) : c.isUpper = false :=
  forall_isLower (P := fun c => c.isUpper = false) (by decide +kernel) hc

theorem not_isDigit_of_isLower (hc : c.isLower = true) : c.isDigit = false :=
  forall_isLower (P := fun c => c.isDigit = false) (by decide +kernel) hc

/-- A word that begins with a small letter keeps it in lower case. -/
theorem head_lowerWord (hc : c.isLower = true) (w : List Char) :
    ∃ rest, lowerWord (c :: w) = c :: rest := by
  have hsigma : c ≠ 'Σ' := by
    rintro rfl
    exact absurd hc (by decide)
  cases w with
  | nil => exact ⟨[], by rw [lowerWord, if_neg hsigma, lowerOf_of_isLower hc]⟩
  | cons d w =>
    exact ⟨lowerWord (d :: w), by rw [lowerWord, lowerOf_of_isLower hc]; rfl; simp⟩

/-- **Lower camel case keeps a small letter in front.** -/
theorem head_lowerCamel {s : String} {cs : List Char} (hc : c.isLower = true)
    (hs : s.toList = c :: cs) : ∃ rest, (lowerCamel s).toList = c :: rest := by
  obtain ⟨w, ws, hwords⟩ := words_eq_cons (isAlphanumeric_of_isLower hc) cs
  obtain ⟨rest, hrest⟩ := head_lowerWord hc w
  refine ⟨rest ++ ws.flatMap capitalWord, ?_⟩
  rw [lowerCamel, String.toList_ofList, hs, hwords, lowerCamelWords, hrest]
  rfl

/-- **Pascal case raises the first letter**, whether or not an underscore stands before it. -/
theorem head_pascal {s : String} {cs : List Char} (hc : c.isLower = true)
    (hs : s.toList = c :: cs ∨ s.toList = '_' :: c :: cs) :
    ∃ rest, (pascal s).toList = c.toUpper :: rest := by
  have hwords : words s.toList = words (c :: cs) := by
    rcases hs with hs | hs
    · rw [hs]
    · rw [hs, words_cons_of_separator (by decide)]
  obtain ⟨w, ws, hcons⟩ := words_eq_cons (isAlphanumeric_of_isLower hc) cs
  refine ⟨lowerWord w ++ ws.flatMap capitalWord, ?_⟩
  rw [pascal, String.toList_ofList, hwords, hcons, List.flatMap_cons, capitalWord,
    upperOf_of_isLower hc]
  rfl

end Text

/-! ## Beginnings -/

/-- The name begins with a small ASCII letter; an underscore may stand before it. -/
def BeginsSmall (name : String) : Prop :=
  ∃ c cs, c.isLower = true ∧ (name.toList = c :: cs ∨ name.toList = '_' :: c :: cs)

/-- The name begins with an ASCII capital. -/
def BeginsCapital (name : String) : Prop :=
  ∃ c cs, c.isUpper = true ∧ name.toList = c :: cs

theorem BeginsSmall.append {name : String} (h : BeginsSmall name) (suffix : String) :
    BeginsSmall (name ++ suffix) := by
  obtain ⟨c, cs, hc, hname⟩ := h
  refine ⟨c, cs ++ suffix.toList, hc, ?_⟩
  rw [String.toList_append]
  rcases hname with hname | hname
  · exact Or.inl (by rw [hname, List.cons_append])
  · exact Or.inr (by rw [hname, List.cons_append, List.cons_append])

theorem BeginsCapital.append {name : String} (h : BeginsCapital name) (suffix : String) :
    BeginsCapital (name ++ suffix) := by
  obtain ⟨c, cs, hc, hname⟩ := h
  exact ⟨c, cs ++ suffix.toList, hc, by rw [String.toList_append, hname, List.cons_append]⟩

theorem BeginsSmall.ne {a b : String} (ha : BeginsSmall a) (hb : BeginsCapital b) : a ≠ b := by
  rintro rfl
  obtain ⟨c, cs, hc, hname⟩ := ha
  obtain ⟨d, ds, hd, hname'⟩ := hb
  rw [hname'] at hname
  rcases hname with hname | hname
  · obtain ⟨rfl, -⟩ := List.cons.inj hname
    rw [Text.not_isUpper_of_isLower hc] at hd
    cases hd
  · obtain ⟨rfl, -⟩ := List.cons.inj hname
    exact absurd hd (by decide)

namespace Naming

open OpenApi

theorem head_name (method : Method) : ∃ c cs, c.isLower = true ∧ method.name.toList = c :: cs := by
  cases method <;> exact ⟨_, _, by decide, rfl⟩

/-- A name that begins with a small letter still does as an identifier, up to an underscore. -/
theorem beginsSmall_sanitized {name : String} {c : Char} {cs : List Char} (hc : c.isLower = true)
    (hname : name.toList = c :: cs) : BeginsSmall (sanitized name) := by
  obtain ⟨rest, hform⟩ : ∃ rest, (identifierForm name).toList = c :: rest := by
    unfold identifierForm
    split
    · exact ⟨cs, hname⟩
    · exact Text.head_lowerCamel hc hname
  have hne : identifierForm name ≠ "" := by
    intro he
    rw [he] at hform
    cases hform
  have hdigit : guardDigit (identifierForm name) = identifierForm name := by
    rw [guardDigit, hform, if_neg (by simp [Text.not_isDigit_of_isLower hc])]
  unfold sanitized
  simp only [if_neg hne, hdigit]
  unfold guardReserved
  split
  · refine ⟨c, rest, hc, Or.inr ?_⟩
    rw [String.toList_append, hform]
    rfl
  · exact ⟨c, rest, hc, Or.inl hform⟩

/-- **The name of a function begins with a small letter**, whatever the path. -/
theorem beginsSmall_functionName (method : Method) (path : String) :
    BeginsSmall (functionName method path) := by
  obtain ⟨c, cs, hc, hmethod⟩ := head_name method
  unfold functionName
  obtain ⟨rest, hcamel⟩ := Text.head_lowerCamel (s := String.ofList (method.name.toList ++
    (nameSegments path).flatMap fun s => '-' :: s)) hc (by
      rw [String.toList_ofList, hmethod, List.cons_append])
  exact beginsSmall_sanitized hc hcamel

/-- **The name of a query type begins with a capital.** -/
theorem beginsCapital_queryTypeName {function : String} (h : BeginsSmall function) :
    BeginsCapital (queryTypeName function) := by
  obtain ⟨c, cs, hc, hfunction⟩ := h
  obtain ⟨rest, hrest⟩ := Text.head_pascal hc hfunction
  have hpascal : BeginsCapital (Text.pascal function) :=
    ⟨c.toUpper, rest, Text.isUpper_toUpper hc, hrest⟩
  exact hpascal.append "Query"

end Naming

theorem LeastNumbered.exists_eq {taken : List String} {stem name : String}
    (h : LeastNumbered taken stem name) : ∃ suffix, name = stem ++ suffix := by
  obtain ⟨n, _, _, hname, _⟩ := h
  exact ⟨toString n, hname⟩

/-- Disambiguation only appends to a base. -/
theorem FunctionAnswer.exists_eq {taken routeNames : List String} {base name : String}
    (h : FunctionAnswer taken base routeNames name) : ∃ suffix, name = base ++ suffix := by
  have happend : ∀ {suffix}, Names.byParameters base routeNames ++ suffix = base ++
      ("By" ++ "And".intercalate (routeNames.map Text.pascal) ++ suffix) := by
    intro suffix
    simp [Names.byParameters, String.append_assoc]
  cases h with
  | base _ => exact ⟨"", String.append_empty.symm⟩
  | byParameters _ _ _ => exact ⟨_, by rw [← happend, String.append_empty]⟩
  | numbered _ _ hname => exact hname.exists_eq
  | numberedByParameters _ _ _ hname =>
    obtain ⟨suffix, rfl⟩ := hname.exists_eq
    exact ⟨_, happend⟩

theorem TypeAnswer.exists_eq {taken : List String} {base name : String}
    (h : TypeAnswer taken base name) : ∃ suffix, name = base ++ suffix := by
  cases h with
  | base _ => exact ⟨"", String.append_empty.symm⟩
  | numbered _ hname => exact hname.exists_eq

namespace Request

variable {ctx : Context} {e : Endpoint} {es : List Endpoint} {names names' : Names}
  {f : EmittedFunction} {fs : List EmittedFunction}

theorem Emitted.beginsSmall (h : Emitted ctx e names f names') : BeginsSmall f.function.name := by
  obtain ⟨path, _, hname⟩ := h.name
  obtain ⟨suffix, hsuffix⟩ := (names.functionName_spec
    (Naming.functionName e.method path) e.routeNames).exists_eq
  rw [hname, hsuffix]
  exact (Naming.beginsSmall_functionName e.method path).append suffix

/-- **The names of functions begin with small letters.** -/
theorem Emits.beginsSmall (h : Emits ctx names es fs) : ∀ f ∈ fs, BeginsSmall f.function.name := by
  intro f hf
  obtain ⟨e, _, before, after, hemitted⟩ := h.exists_emitted hf
  exact hemitted.beginsSmall

/-- **The names of query types begin with capitals.** -/
theorem Emits.beginsCapital (h : Emits ctx names es fs) :
    ∀ q ∈ queryTypes fs, BeginsCapital q := by
  intro q hq
  obtain ⟨p, hp, rfl⟩ := List.mem_map.1 hq
  obtain ⟨f, hf, hfp⟩ := List.mem_filterMap.1 hp
  obtain ⟨e, _, before, after, hemitted⟩ := h.exists_emitted hf
  have hquery : p.1 ∈ f.query.map Prod.fst := by
    rw [hfp]
    rfl
  obtain ⟨suffix, hsuffix⟩ := (hemitted.typeAnswer hquery).exists_eq
  rw [hsuffix]
  exact (Naming.beginsCapital_queryTypeName hemitted.beginsSmall).append suffix

end Request

end TypedRequests
