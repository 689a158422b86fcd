import TypedRequests.Proofs.CommentEnds
import TypedRequests.Proofs.Identifiers
import TypedRequests.Proofs.Initials

/-!
# Names that may stand bare

The names of functions, of their parameters and of their query types are written without quotes. If
the path of the requests and the names of the route parameters are ASCII, the generated names can
be written so, whatever is in them and whatever names are taken. No reserved word has anything but
small letters, so what is put before or behind a name to tell it apart never makes one.

* `ValidName` : an identifier that is no reserved word.
* `validName_guarded` : the guards against leading digits and reserved words are enough.
* `Naming.validName_sanitized`, `Naming.validName_functionName`, `Naming.validName_queryTypeName` :
  names before they are made distinct.
* `Marks`, `ValidName.append` : what makes them distinct keeps them valid.
* `Request.generated_names_valid` : the names of a function.
-/

set_option autoImplicit false

namespace TypedRequests

open TypeScript

/-- The text is ASCII. -/
def IsAscii (s : String) : Prop :=
  ∀ c ∈ s.toList, c.toNat < 128

instance (s : String) : Decidable (IsAscii s) :=
  decidable_of_iff (s.toList.all (fun c => c.toNat < 128) = true) (by simp [IsAscii])

/-- The name may stand bare as the name of a variable, a function or a type. -/
structure ValidName (name : String) : Prop where
  nonempty : name ≠ ""
  identifier : isIdentifier name = true
  unreserved : isReserved name = false

/-! ## Casing of ASCII names -/

namespace Text

variable {s : String} {c c' : Char}

/-- Casing turns ASCII letters and digits into such. -/
theorem CasedFrom.isAlphanum (h : CasedFrom c c') (hascii : c.toNat < 128)
    (hc : isAlphanumeric c = true) : c'.isAlphanum = true := by
  rw [isAlphanumeric_ascii hascii] at hc
  cases h with
  | lower h =>
    rw [lowerOf, if_pos hascii] at h
    obtain rfl := List.mem_singleton.1 h
    exact forall_ascii (P := fun c => c.isAlphanum = true → c.toLower.isAlphanum = true)
      (by decide +kernel) hascii hc
  | upper h =>
    rw [upperOf, if_pos hascii] at h
    obtain rfl := List.mem_singleton.1 h
    exact forall_ascii (P := fun c => c.isAlphanum = true → c.toUpper.isAlphanum = true)
      (by decide +kernel) hascii hc
  | finalSigma h =>
    rw [h] at hascii
    exact absurd hascii (by decide)

theorem isAlphanum_of_mem_lowerCamel (hs : IsAscii s) (hc : c ∈ (lowerCamel s).toList) :
    c.isAlphanum = true := by
  obtain ⟨c₀, hmem, hword, h⟩ := exists_of_mem_lowerCamel hc
  exact h.isAlphanum (hs c₀ hmem) hword

theorem isAlphanum_of_mem_pascal (hs : IsAscii s) (hc : c ∈ (pascal s).toList) :
    c.isAlphanum = true := by
  obtain ⟨c₀, hmem, hword, h⟩ := exists_of_mem_pascal hc
  exact h.isAlphanum (hs c₀ hmem) hword

end Text

/-! ## Identifiers and reserved words -/

namespace TypeScript

variable {name : String} {c : Char} {cs : List Char}

theorem isIdentifierPart_of_isAlphanum (h : c.isAlphanum = true) : isIdentifierPart c = true := by
  simp [isIdentifierPart, h]

theorem isIdentifierStart_of_part (h : isIdentifierPart c = true) (hdigit : c.isDigit = false) :
    isIdentifierStart c = true := by
  simpa [isIdentifierPart, isIdentifierStart, Char.isAlphanum, hdigit] using h

theorem toNat_lt_of_isAlphanum (h : c.isAlphanum = true) : c.toNat < 128 := by
  have hranges : ((decide (c.val ≥ 'A'.val ∧ c.val ≤ 'Z'.val) ||
      decide (c.val ≥ 'a'.val) && decide (c.val ≤ 'z'.val)) ||
        decide (c.val ≥ '0'.val) && decide (c.val ≤ '9'.val)) = true := h
  simp only [Bool.or_eq_true, Bool.and_eq_true, decide_eq_true_eq, UInt32.le_iff_toNat_le]
    at hranges
  rcases hranges with (h | h) | h
  all_goals exact Nat.lt_of_le_of_lt h.2 (by decide)

theorem toNat_lt_of_isIdentifierPart (h : isIdentifierPart c = true) : c.toNat < 128 := by
  simp only [isIdentifierPart, Bool.or_eq_true, beq_iff_eq] at h
  rcases h with (h | rfl) | rfl
  · exact toNat_lt_of_isAlphanum h
  · decide
  · decide

theorem isIdentifier_of_cons (hname : name.toList = c :: cs) (hstart : isIdentifierStart c = true)
    (hparts : ∀ d ∈ cs, isIdentifierPart d = true) : isIdentifier name = true := by
  rw [isIdentifier, hname, isIdentifierChars, hstart, Bool.true_and]
  exact List.all_eq_true.2 hparts

/-- **Reserved words have nothing but small letters.** -/
theorem isLower_of_isReserved (h : isReserved name = true) :
    ∀ c ∈ name.toList, c.isLower = true := by
  have hwords : ∀ word ∈ reservedWords, word.toList.all Char.isLower = true := by decide +kernel
  exact List.all_eq_true.1 (hwords name (List.contains_iff_mem.1 h))

theorem unreserved_of_mem (hc : c ∈ name.toList) (hlower : c.isLower = false) :
    isReserved name = false := by
  by_contra h
  rw [Bool.not_eq_false] at h
  rw [isLower_of_isReserved h c hc] at hlower
  cases hlower

end TypeScript

/-! ## Guards -/

section Guards

variable {form name : String}

/-- With an underscore in front any parts of identifiers are a valid name. -/
theorem validName_underscore_append (hparts : ∀ c ∈ form.toList, isIdentifierPart c = true) :
    ValidName ("_" ++ form) := by
  have hchars : ("_" ++ form).toList = '_' :: form.toList := by simp
  refine ⟨fun he => ?_, isIdentifier_of_cons hchars rfl hparts,
    unreserved_of_mem (c := '_') (hchars ▸ List.mem_cons_self ..) rfl⟩
  rw [he] at hchars
  cases hchars

/-- **A form made of parts of identifiers is guarded into a valid name.** -/
theorem validName_guarded (hne : form ≠ "")
    (hparts : ∀ c ∈ form.toList, isIdentifierPart c = true) :
    ValidName (Naming.guardReserved (Naming.guardDigit form)) := by
  obtain ⟨c, cs, hform⟩ : ∃ c cs, form.toList = c :: cs :=
    List.exists_cons_of_ne_nil fun he => hne (String.toList_eq_nil_iff.1 he)
  cases hdigit : c.isDigit with
  | true =>
    have hguard : Naming.guardDigit form = "_" ++ form := by
      rw [Naming.guardDigit, hform, if_pos (by simpa using hdigit)]
    have hvalid := validName_underscore_append hparts
    rw [hguard, Naming.guardReserved, if_neg (by simp [hvalid.unreserved])]
    exact hvalid
  | false =>
    have hguard : Naming.guardDigit form = form := by
      rw [Naming.guardDigit, hform, if_neg (by simp [hdigit])]
    rw [hform] at hparts
    obtain ⟨hc, hcs⟩ := List.forall_mem_cons.1 hparts
    rw [hguard]
    unfold Naming.guardReserved
    split
    · rw [← hform] at hparts
      exact validName_underscore_append hparts
    · rename_i hreserved
      exact ⟨hne, isIdentifier_of_cons hform (isIdentifierStart_of_part hc hdigit) hcs,
        Bool.eq_false_iff.2 hreserved⟩

end Guards

namespace Naming

open OpenApi

/-- A name that gives an ASCII form is a valid name when it is made a variable name. -/
theorem validName_sanitized_of_form {name : String}
    (hparts : ∀ c ∈ (identifierForm name).toList, isIdentifierPart c = true) :
    ValidName (sanitized name) := by
  unfold sanitized
  by_cases hempty : identifierForm name = ""
  · rw [if_pos hempty]
    exact ⟨by decide, by decide, by decide⟩
  · rw [if_neg hempty]
    exact validName_guarded hempty hparts

/-- **An ASCII name becomes a valid name.** -/
theorem validName_sanitized {name : String} (hname : IsAscii name) :
    ValidName (sanitized name) := by
  refine validName_sanitized_of_form fun c hc => ?_
  unfold identifierForm at hc
  split at hc
  · rename_i h
    exact forall_part_of_isIdentifier h c hc
  · exact isIdentifierPart_of_isAlphanum (Text.isAlphanum_of_mem_lowerCamel hname hc)

/-- The characters of literal segments are characters of the path. -/
theorem mem_of_mem_nameSegments {path : String} {segment : List Char}
    (hsegment : segment ∈ nameSegments path) {c : Char} (hc : c ∈ segment) : c ∈ path.toList :=
  (Text.infix_of_mem_splitOn (List.mem_of_mem_filter hsegment)).subset hc

/-- **A function of an ASCII path has a valid name**, also if the path has no literal segment. -/
theorem validName_functionName (method : Method) {path : String} (hpath : IsAscii path) :
    ValidName (functionName method path) := by
  have hjoined : IsAscii (String.ofList (method.name.toList ++
      (nameSegments path).flatMap fun s => '-' :: s)) := by
    intro c hc
    rw [String.toList_ofList] at hc
    rcases List.mem_append.1 hc with hc | hc
    · have hname : IsAscii method.name := by cases method <;> decide
      exact hname c hc
    · obtain ⟨segment, hsegment, hc⟩ := List.mem_flatMap.1 hc
      rcases List.mem_cons.1 hc with rfl | hc
      · decide
      · exact hpath c (mem_of_mem_nameSegments hsegment hc)
  refine validName_sanitized fun c hc => ?_
  exact toNat_lt_of_isIdentifierPart
    (isIdentifierPart_of_isAlphanum (Text.isAlphanum_of_mem_lowerCamel hjoined hc))

end Naming

/-! ## Suffixes -/

/-- The suffix may stand behind a valid name: it continues an identifier, and it has a character
that no reserved word has. -/
structure Marks (suffix : String) : Prop where
  parts : ∀ c ∈ suffix.toList, isIdentifierPart c = true
  marked : ∃ c ∈ suffix.toList, c.isLower = false

theorem ValidName.append {name suffix : String} (h : ValidName name) (hsuffix : Marks suffix) :
    ValidName (name ++ suffix) := by
  obtain ⟨c, cs, hname, hstart⟩ := exists_start_of_isIdentifier h.identifier
  obtain ⟨d, hd, hlower⟩ := hsuffix.marked
  have hchars : (name ++ suffix).toList = c :: (cs ++ suffix.toList) := by
    rw [String.toList_append, hname, List.cons_append]
  have hparts := forall_part_of_isIdentifier h.identifier
  rw [hname] at hparts
  refine ⟨fun he => ?_, isIdentifier_of_cons hchars hstart fun x hx => ?_,
    unreserved_of_mem (c := d) ?_ hlower⟩
  · rw [he] at hchars
    cases hchars
  · rcases List.mem_append.1 hx with hx | hx
    · exact hparts x (List.mem_cons_of_mem c hx)
    · exact hsuffix.parts x hx
  · rw [String.toList_append]
    exact List.mem_append_right _ hd

theorem marks_number (n : Nat) : Marks (toString n) := by
  have hdigit : ∀ c ∈ (toString n).toList, c.isDigit = true := fun c hc => by
    rw [Nat.toString_eq_ofList_toDigits, String.toList_ofList] at hc
    exact Nat.isDigit_of_mem_toDigits (by decide) (by decide) hc
  obtain ⟨c, hc⟩ : ∃ c, c ∈ (toString n).toList := by
    rw [Nat.toString_eq_ofList_toDigits, String.toList_ofList]
    exact List.exists_mem_of_ne_nil _ Nat.toDigits_ne_nil
  refine ⟨fun c hc => isIdentifierPart_of_isAlphanum (by simp [Char.isAlphanum, hdigit c hc]),
    c, hc, ?_⟩
  by_contra h
  rw [Bool.not_eq_false] at h
  have := hdigit c hc
  rw [Text.not_isDigit_of_isLower h] at this
  cases this

theorem LeastNumbered.validName {taken : List String} {stem name : String}
    (h : LeastNumbered taken stem name) (hstem : ValidName stem) : ValidName name := by
  obtain ⟨n, _, _, rfl, _⟩ := h
  exact hstem.append (marks_number n)

theorem validName_withUnderscores {identifier : String} (h : ValidName identifier) (count : Nat) :
    ValidName (withUnderscores identifier count) := by
  cases count with
  | zero => rwa [withUnderscores_zero]
  | succ count =>
    have hchars : (String.ofList (List.replicate (count + 1) '_')).toList =
        List.replicate (count + 1) '_' := String.toList_ofList
    refine h.append ⟨fun c hc => ?_, '_', ?_, rfl⟩
    · rw [hchars] at hc
      rw [List.eq_of_mem_replicate hc]
      rfl
    · rw [hchars]
      exact List.mem_cons_self ..

theorem forall_mem_intercalate {P : Char → Prop} {separator : String} {pieces : List String}
    (hseparator : ∀ c ∈ separator.toList, P c)
    (hpieces : ∀ piece ∈ pieces, ∀ c ∈ piece.toList, P c) :
    ∀ c ∈ (separator.intercalate pieces).toList, P c := by
  induction pieces with
  | nil => simp
  | cons piece pieces ih =>
    obtain ⟨hpiece, hpieces⟩ := List.forall_mem_cons.1 hpieces
    cases pieces with
    | nil => rwa [String.intercalate_singleton]
    | cons next pieces =>
      rw [String.intercalate_cons_cons, String.toList_append, String.toList_append]
      exact List.forall_mem_append.2 ⟨List.forall_mem_append.2 ⟨hpiece, hseparator⟩, ih hpieces⟩

theorem Chosen.validName {used identifiers names : List String} (h : Chosen used identifiers names)
    (hvalid : ∀ identifier ∈ identifiers, ValidName identifier) :
    ∀ name ∈ names, ValidName name := by
  induction h with
  | nil => exact nofun
  | cons hleast _ ih =>
    obtain ⟨hfirst, hrest⟩ := List.forall_mem_cons.1 hvalid
    obtain ⟨count, _, rfl, _⟩ := hleast
    exact List.forall_mem_cons.2 ⟨validName_withUnderscores hfirst count, ih hrest⟩

/-- Route parameters behind a name are marked by the word that introduces them. -/
theorem validName_byParameters {base : String} {routeNames : List String} (hbase : ValidName base)
    (hroute : ∀ name ∈ routeNames, IsAscii name) :
    ValidName (Names.byParameters base routeNames) := by
  have hsuffix : Marks ("By" ++ "And".intercalate (routeNames.map Text.pascal)) := by
    refine ⟨fun c hc => ?_, 'B', by simp, rfl⟩
    rw [String.toList_append] at hc
    rcases List.mem_append.1 hc with hc | hc
    · exact forall_part_of_isIdentifier (by decide) c hc
    · refine forall_mem_intercalate (P := fun c => isIdentifierPart c = true)
        (forall_part_of_isIdentifier (by decide)) (fun piece hpiece c hc => ?_) c hc
      obtain ⟨name, hname, rfl⟩ := List.mem_map.1 hpiece
      exact isIdentifierPart_of_isAlphanum (Text.isAlphanum_of_mem_pascal (hroute name hname) hc)
  rw [Names.byParameters, String.append_assoc]
  exact hbase.append hsuffix

theorem FunctionAnswer.validName {taken routeNames : List String} {base name : String}
    (h : FunctionAnswer taken base routeNames name) (hbase : ValidName base)
    (hroute : ∀ name ∈ routeNames, IsAscii name) : ValidName name := by
  cases h with
  | base _ => exact hbase
  | byParameters _ _ _ => exact validName_byParameters hbase hroute
  | numbered _ _ hname => exact hname.validName hbase
  | numberedByParameters _ _ _ hname => exact hname.validName (validName_byParameters hbase hroute)

theorem TypeAnswer.validName {taken : List String} {base name : String}
    (h : TypeAnswer taken base name) (hbase : ValidName base) : ValidName name := by
  cases h with
  | base _ => exact hbase
  | numbered _ hname => exact hname.validName hbase

/-! ## Names of functions -/

/-- The query type of a valid name that begins with a small letter has a valid name. -/
theorem Naming.validName_queryTypeName {function : String} (h : ValidName function)
    (hsmall : BeginsSmall function) : ValidName (queryTypeName function) := by
  obtain ⟨c, cs, hupper, hname⟩ := beginsCapital_queryTypeName hsmall
  have hparts : ∀ d ∈ (queryTypeName function).toList, isIdentifierPart d = true := by
    have hascii : IsAscii function := fun d hd =>
      toNat_lt_of_isIdentifierPart (forall_part_of_isIdentifier h.identifier d hd)
    intro d hd
    rw [queryTypeName, String.toList_append] at hd
    rcases List.mem_append.1 hd with hd | hd
    · exact isIdentifierPart_of_isAlphanum (Text.isAlphanum_of_mem_pascal hascii hd)
    · exact forall_part_of_isIdentifier (by decide) d hd
  rw [hname] at hparts
  obtain ⟨hc, hcs⟩ := List.forall_mem_cons.1 hparts
  refine ⟨fun he => ?_, isIdentifier_of_cons hname ?_ hcs,
    unreserved_of_mem (c := c) (hname ▸ List.mem_cons_self ..) ?_⟩
  · rw [he] at hname
    cases hname
  · have halpha : (c.isUpper || c.isLower) = true := by rw [hupper, Bool.true_or]
    have hletter : c.isAlpha = true := halpha
    simp [isIdentifierStart, hletter]
  · by_contra hlower
    rw [Bool.not_eq_false] at hlower
    rw [Text.not_isUpper_of_isLower hlower] at hupper
    cases hupper

namespace Request

variable {ctx : Context} {e : Endpoint} {names names' : Names} {f : EmittedFunction} {path : String}

theorem Emitted.validName (h : Emitted ctx e names f names') (hpath : e.requestPath ctx = .ok path)
    (hascii : IsAscii path) (hroute : ∀ name ∈ e.routeNames, IsAscii name) :
    ValidName f.function.name := by
  obtain ⟨path', hpath', hname⟩ := h.name
  obtain rfl : path = path' := Except.ok.inj (hpath.symm.trans hpath')
  rw [hname]
  exact (names.functionName_spec _ _).validName (Naming.validName_functionName e.method hascii)
    hroute

theorem Emitted.validName_query (h : Emitted ctx e names f names')
    (hname : ValidName f.function.name) {q : String} (hq : q ∈ f.query.map Prod.fst) :
    ValidName q :=
  (h.typeAnswer hq).validName (Naming.validName_queryTypeName hname h.beginsSmall)

theorem Endpoint.validName_of_mem_routeIdentifiers
    (hroute : ∀ name ∈ e.routeNames, IsAscii name) :
    ∀ identifier ∈ e.routeIdentifiers, ValidName identifier := by
  refine (chosen_distinctIdentifiers _ _).validName fun identifier hidentifier => ?_
  obtain ⟨name, hname, rfl⟩ := List.mem_map.1 hidentifier
  exact Naming.validName_sanitized (hroute name hname)

theorem Endpoint.validName_of_mem_fixedNames : ∀ name ∈ e.fixedNames, ValidName name := by
  have hquery : ValidName queryName := ⟨by decide, by decide, by decide⟩
  have hdata : ValidName dataName := ⟨by decide, by decide, by decide⟩
  unfold fixedNames
  cases e.query.isEmpty <;> cases e.body.isNone <;> simp [hquery, hdata]

/-- **The names of a function may stand bare**, if the path of its requests and the names of its
route parameters are ASCII: its own name, that of its query type, and the names of its parameters.
The path may have no literal segment, and names may consist of punctuation, begin with digits or be
or become reserved words; any names may be taken before. -/
theorem generated_names_valid (h : emitFunction ctx e names = (.ok f, names'))
    (hpath : e.requestPath ctx = .ok path) (hascii : IsAscii path)
    (hroute : ∀ name ∈ e.routeNames, IsAscii name) :
    ValidName f.function.name ∧ (∀ q ∈ f.query.map Prod.fst, ValidName q) ∧
      ∀ name ∈ f.parameterNames, ValidName name := by
  have hemitted := emitFunction_ok h
  have hname := hemitted.validName hpath hascii hroute
  refine ⟨hname, fun q hq => hemitted.validName_query hname hq, fun name hmem => ?_⟩
  rw [hemitted.parameterNames] at hmem
  rcases List.mem_append.1 hmem with hmem | hmem
  · exact Endpoint.validName_of_mem_routeIdentifiers hroute name hmem
  · exact Endpoint.validName_of_mem_fixedNames name hmem

/-- An operation whose path has placeholders only, named by a hyphen, a number and a keyword. -/
def placeholdersOnly : Endpoint :=
  ⟨"/\x7b-\x7d/\x7b1st\x7d/\x7bclass\x7d", .delete, none,
    [⟨"-", none, none⟩, ⟨"1st", none, none⟩, ⟨"class", none, none⟩],
    [⟨"limit", none, false, none⟩], none, .empty⟩

/-- Names that leave the operation neither its plain name nor the one by its parameters. -/
def placeholdersTaken : Names :=
  ⟨["_delete", "_deleteByAnd1stAndClass"], ["DeleteByAnd1stAndClass2Query"]⟩

/-- Underscores and numbers make valid names where there are no letters to start from. -/
theorem generated_names_valid_placeholders :
    ∃ f names', emitFunction addressContext placeholdersOnly placeholdersTaken = (.ok f, names') ∧
      (f.function.name = "_deleteByAnd1stAndClass2" ∧ ValidName f.function.name) ∧
      (f.query.map Prod.fst = some "DeleteByAnd1stAndClass2Query2" ∧
        ValidName "DeleteByAnd1stAndClass2Query2") ∧
      f.parameterNames = ["_empty", "_1st", "_class", "query"] ∧
      ∀ name ∈ f.parameterNames, ValidName name := by
  have hfunction : (emitFunction addressContext placeholdersOnly placeholdersTaken).1.toOption.any
      (fun f => f.function.name == "_deleteByAnd1stAndClass2" &&
        f.query.map Prod.fst == some "DeleteByAnd1stAndClass2Query2" &&
        f.parameterNames == ["_empty", "_1st", "_class", "query"]) = true := by
    decide +kernel
  obtain ⟨f, hf, hwanted⟩ := (Option.any_eq_true _ _).1 hfunction
  simp only [Bool.and_eq_true, beq_iff_eq] at hwanted
  obtain ⟨⟨hname, hquery⟩, hparameters⟩ := hwanted
  have h : emitFunction addressContext placeholdersOnly placeholdersTaken = (.ok f, _) :=
    Prod.ext (eq_ok_of_toOption hf) rfl
  obtain ⟨hfunction, htype, hnames⟩ := generated_names_valid h rfl (by decide) (by decide)
  exact ⟨f, _, h, ⟨hname, hfunction⟩, ⟨hquery, htype _ hquery⟩, hparameters, hnames⟩

end Request

end TypedRequests
