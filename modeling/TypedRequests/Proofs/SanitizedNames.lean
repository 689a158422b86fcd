import TypedRequests.Proofs.CaseTables
import TypedRequests.Proofs.ValidNames

/-!
# Sanitized names

What becomes of any name, ASCII or not, when it is made a variable name. The result is never empty
and never a reserved word. What else one expects of it holds for ASCII names, and beyond ASCII
exactly as long as casing neither leaves a number of another script in front, nor brings in a
combining mark, nor changes when it is done again.

* `Text.flatten_words` : words are the letters and numbers of a text.
* `Text.Recased`, `Text.IsCamel`, `Text.lowerCamelWords_eq_self_iff` : lower camel case changes
  nothing in a text exactly if the text has only words that are cased so already.
* `Text.CamelPlain` : words that give no combining mark.
* `Text.head_lowerCamelWords` : what a text in lower camel case begins with.
* `Naming.sanitized_spec` : what this means for variable names.
-/

set_option autoImplicit false

namespace TypedRequests

namespace Text

/-! ## Words and their texts -/

theorem flatten_closeWord (word : List Char) : (closeWord word).flatten = word.reverse := by
  unfold closeWord
  split
  · rename_i h
    rw [h]
    rfl
  · rw [List.flatten_singleton]

theorem flatten_wordsFrom (mode : CaseMode) (word cs : List Char) :
    (wordsFrom mode word cs).flatten = word.reverse ++ cs.filter isAlphanumeric := by
  induction cs generalizing mode word with
  | nil => rw [wordsFrom, flatten_closeWord, List.filter_nil, List.append_nil]
  | cons c cs ih =>
    unfold wordsFrom
    split
    · rename_i hc
      rw [List.filter_cons_of_pos hc]
      split
      · simp [ih]
      · split
        · simp [ih]
        · simp [ih]
    · rename_i hc
      rw [List.filter_cons_of_neg hc, List.flatten_append, flatten_closeWord, ih]
      rfl

/-- **The words of a text are its letters and numbers**, in order. -/
theorem flatten_words (cs : List Char) : (words cs).flatten = cs.filter isAlphanumeric :=
  flatten_wordsFrom .fresh [] cs

theorem isAlphanumeric_of_mem_words {cs : List Char} :
    ∀ w ∈ words cs, ∀ c ∈ w, isAlphanumeric c = true :=
  fun _ hw _ hc => (mem_words hw hc).2

/-! ## Casing again -/

/-- The second text has a form of each character of the first, in order. -/
inductive Recased : List Char → List Char → Prop where
  | nil : Recased [] []
  | cons {c : Char} {form cs ds : List Char} (h : Image c form) (hs : Recased cs ds) :
      Recased (c :: cs) (form ++ ds)

namespace Recased

variable {as bs cs ds : List Char}

theorem append (h : Recased as bs) (h' : Recased cs ds) : Recased (as ++ cs) (bs ++ ds) := by
  induction h with
  | nil => exact h'
  | cons h _ ih => exact List.append_assoc .. ▸ .cons h ih

theorem length_le (h : Recased cs ds) : cs.length ≤ ds.length := by
  induction h with
  | nil => exact Nat.le_refl 0
  | cons h _ ih =>
    obtain ⟨c', rest, rfl, _⟩ := h
    simp only [List.length_cons, List.length_append]
    omega

/-- If nothing changes in the whole, nothing changes in a part. -/
theorem append_inj (h : Recased as bs) (h' : Recased cs ds) (heq : bs ++ ds = as ++ cs) :
    bs = as ∧ ds = cs := by
  have hlength := congrArg List.length heq
  rw [List.length_append, List.length_append] at hlength
  have hle := h.length_le
  have hle' := h'.length_le
  exact List.append_inj heq (by omega)

/-- A text that is recased from its own letters and numbers has nothing else. -/
theorem forall_isAlphanumeric (h : Recased cs ds) (hfilter : ds.filter isAlphanumeric = cs) :
    ∀ c ∈ ds, isAlphanumeric c = true := by
  induction h with
  | nil => exact nofun
  | @cons c form cs ds himage _ ih =>
    obtain ⟨c', rest, rfl, hc', hsame⟩ := himage
    rw [List.cons_append, List.filter_cons_of_pos hc'] at hfilter
    obtain ⟨rfl, htail⟩ := List.cons.inj hfilter
    rw [hsame rfl, List.nil_append] at htail
    rw [hsame rfl, List.cons_append, List.nil_append]
    exact List.forall_mem_cons.2 ⟨hc', ih htail⟩

end Recased

section Recasing

variable {w : List Char} {ws : List (List Char)}

theorem isAlphanumeric_finalSigma : isAlphanumeric 'ς' = true :=
  (isAlphanumeric_of_isLetterCode (n := 0x3C2) (by decide +kernel)).1

theorem recased_lowerWord (hw : ∀ c ∈ w, isAlphanumeric c = true) : Recased w (lowerWord w) := by
  induction w with
  | nil => exact .nil
  | cons c w ih =>
    obtain ⟨hc, hw⟩ := List.forall_mem_cons.1 hw
    cases w with
    | nil =>
      have himage : Image c (lowerWord [c]) := by
        unfold lowerWord
        split
        · exact image_singleton isAlphanumeric_finalSigma
        · exact image_lowerOf hc
      exact List.append_nil (lowerWord [c]) ▸ .cons himage .nil
    | cons d w => exact .cons (image_lowerOf hc) (ih hw)

theorem recased_capitalWord (hw : ∀ c ∈ w, isAlphanumeric c = true) :
    Recased w (capitalWord w) := by
  cases w with
  | nil => exact .nil
  | cons c w =>
    obtain ⟨hc, hw⟩ := List.forall_mem_cons.1 hw
    exact .cons (image_upperOf hc) (recased_lowerWord hw)

theorem recased_flatMap_capitalWord (hws : ∀ w ∈ ws, ∀ c ∈ w, isAlphanumeric c = true) :
    Recased ws.flatten (ws.flatMap capitalWord) := by
  induction ws with
  | nil => exact .nil
  | cons w ws ih =>
    obtain ⟨hw, hws⟩ := List.forall_mem_cons.1 hws
    exact (recased_capitalWord hw).append (ih hws)

theorem recased_lowerCamelWords (hws : ∀ w ∈ ws, ∀ c ∈ w, isAlphanumeric c = true) :
    Recased ws.flatten (lowerCamelWords ws) := by
  cases ws with
  | nil => exact .nil
  | cons w ws =>
    obtain ⟨hw, hws⟩ := List.forall_mem_cons.1 hws
    exact (recased_lowerWord hw).append (recased_flatMap_capitalWord hws)

theorem flatMap_capitalWord_eq_flatten_iff (hws : ∀ w ∈ ws, ∀ c ∈ w, isAlphanumeric c = true) :
    ws.flatMap capitalWord = ws.flatten ↔ ∀ w ∈ ws, capitalWord w = w := by
  induction ws with
  | nil => exact ⟨fun _ => nofun, fun _ => rfl⟩
  | cons w ws ih =>
    obtain ⟨hw, hws⟩ := List.forall_mem_cons.1 hws
    rw [List.forall_mem_cons, ← ih hws, List.flatMap_cons, List.flatten_cons]
    constructor
    · exact (recased_capitalWord hw).append_inj (recased_flatMap_capitalWord hws)
    · rintro ⟨hfirst, hrest⟩
      rw [hfirst, hrest]

theorem lowerCamelWords_eq_flatten_iff (hws : ∀ w ∈ ws, ∀ c ∈ w, isAlphanumeric c = true) :
    lowerCamelWords ws = ws.flatten ↔
      (∀ w ∈ ws.head?, lowerWord w = w) ∧ ∀ w ∈ ws.tail, capitalWord w = w := by
  cases ws with
  | nil => exact ⟨fun _ => ⟨nofun, nofun⟩, fun _ => rfl⟩
  | cons w ws =>
    obtain ⟨hw, hws⟩ := List.forall_mem_cons.1 hws
    rw [lowerCamelWords, List.flatten_cons, List.tail_cons,
      ← flatMap_capitalWord_eq_flatten_iff hws]
    constructor
    · intro heq
      obtain ⟨hfirst, hrest⟩ :=
        (recased_lowerWord hw).append_inj (recased_flatMap_capitalWord hws) heq
      exact ⟨fun v hv => Option.some.inj hv ▸ hfirst, hrest⟩
    · rintro ⟨hfirst, hrest⟩
      rw [hfirst w rfl, hrest]

end Recasing

/-- The text is in lower camel case: it has letters and numbers only, and they make a first word in
lower case and capitalised words behind it. -/
structure IsCamel (cs : List Char) : Prop where
  plain : ∀ c ∈ cs, isAlphanumeric c = true
  words : (∀ w ∈ (words cs).head?, lowerWord w = w) ∧ ∀ w ∈ (words cs).tail, capitalWord w = w

/-- **Lower camel case changes nothing exactly in a text in lower camel case.** -/
theorem lowerCamelWords_eq_self_iff {cs : List Char} :
    lowerCamelWords (words cs) = cs ↔ IsCamel cs := by
  have hws : ∀ w ∈ words cs, ∀ c ∈ w, isAlphanumeric c = true := isAlphanumeric_of_mem_words
  have hflatten : (∀ c ∈ cs, isAlphanumeric c = true) → (words cs).flatten = cs := fun hplain => by
    rw [flatten_words, List.filter_eq_self.2 hplain]
  constructor
  · intro heq
    have hrecased := recased_lowerCamelWords hws
    rw [heq] at hrecased
    have hplain := hrecased.forall_isAlphanumeric (flatten_words cs).symm
    exact ⟨hplain, (lowerCamelWords_eq_flatten_iff hws).1 (heq.trans (hflatten hplain).symm)⟩
  · intro h
    exact ((lowerCamelWords_eq_flatten_iff hws).2 h.words).trans (hflatten h.plain)

/-! ## Combining marks -/

theorem isAlphanumeric_dot : isAlphanumeric '\u0307' = false :=
  isAlphanumeric_eq_false_of_misses (by decide) (by decide +kernel) (by decide +kernel)

theorem plain_lowerOf_iff {c : Char} (hc : isAlphanumeric c = true) :
    (∀ c' ∈ lowerOf c, isAlphanumeric c' = true) ↔ c ≠ 'İ' := by
  constructor
  · rintro h rfl
    have hmark := h '\u0307' (by rw [lowerOf_dotted]; decide)
    rw [isAlphanumeric_dot] at hmark
    cases hmark
  · intro hdot
    obtain ⟨c', heq, hword, _⟩ := lowerOf_spec hc hdot
    rw [heq]
    exact List.forall_mem_singleton.2 hword

theorem plain_lowerWord_iff {w : List Char} (hw : ∀ c ∈ w, isAlphanumeric c = true) :
    (∀ c' ∈ lowerWord w, isAlphanumeric c' = true) ↔ 'İ' ∉ w := by
  induction w with
  | nil => exact ⟨fun _ => nofun, fun _ => nofun⟩
  | cons c w ih =>
    obtain ⟨hc, hw⟩ := List.forall_mem_cons.1 hw
    have hfirst : (∀ c' ∈ lowerOf c, isAlphanumeric c' = true) ↔ ¬ 'İ' = c :=
      (plain_lowerOf_iff hc).trans ne_comm
    cases w with
    | nil =>
      rw [List.mem_singleton, ← hfirst, lowerWord]
      split
      · rename_i hsigma
        exact iff_of_true (List.forall_mem_singleton.2 isAlphanumeric_finalSigma)
          (hfirst.2 (by rw [hsigma]; decide))
      · exact Iff.rfl
    | cons d w =>
      have heq : lowerWord (c :: d :: w) = lowerOf c ++ lowerWord (d :: w) := rfl
      rw [List.mem_cons, not_or, ← hfirst, ← ih hw, heq, List.forall_mem_append]

/-- The capitalised word has letters and numbers only: the small form of no letter has a combining
mark, nor has the capital form of the first. -/
def CapitalPlain : List Char → Prop
  | [] => True
  | c :: w => (∀ c' ∈ upperOf c, isAlphanumeric c' = true) ∧ 'İ' ∉ w

/-- In lower camel case the words have letters and numbers only. -/
def CamelPlain : List (List Char) → Prop
  | [] => True
  | w :: ws => 'İ' ∉ w ∧ ∀ v ∈ ws, CapitalPlain v

theorem plain_capitalWord_iff {w : List Char} (hw : ∀ c ∈ w, isAlphanumeric c = true) :
    (∀ c' ∈ capitalWord w, isAlphanumeric c' = true) ↔ CapitalPlain w := by
  cases w with
  | nil => exact ⟨fun _ => trivial, fun _ => nofun⟩
  | cons c w =>
    rw [capitalWord, List.forall_mem_append, CapitalPlain,
      plain_lowerWord_iff (List.forall_mem_cons.1 hw).2]

/-- **A text in lower camel case has letters and numbers only** exactly if no letter in it has a
form with a combining mark. -/
theorem plain_lowerCamelWords_iff {ws : List (List Char)}
    (hws : ∀ w ∈ ws, ∀ c ∈ w, isAlphanumeric c = true) :
    (∀ c' ∈ lowerCamelWords ws, isAlphanumeric c' = true) ↔ CamelPlain ws := by
  cases ws with
  | nil => exact ⟨fun _ => trivial, fun _ => nofun⟩
  | cons w ws =>
    obtain ⟨hw, hws⟩ := List.forall_mem_cons.1 hws
    rw [lowerCamelWords, List.forall_mem_append, CamelPlain, plain_lowerWord_iff hw,
      List.forall_mem_flatMap]
    exact and_congr_right fun _ => forall₂_congr fun v hv => plain_capitalWord_iff (hws v hv)

/-! ## Numbers in front -/

theorem isNumeric_eq_false_of_misses {n : Nat} (hn : 57 < n)
    (h : numericTable.toList.all (CodeRun.misses n n) = true) : isNumeric (Char.ofNat n) = false :=
  (not_isNumeric_ofNat h hn (Nat.le_refl _) (Nat.le_refl _)).1

/-- The small form of a letter or number begins with a number exactly if the character is one. -/
theorem head_lowerOf {c : Char} (hc : isAlphanumeric c = true) :
    ∃ c' rest, lowerOf c = c' :: rest ∧ isNumeric c' = isNumeric c ∧ c'.isDigit = c.isDigit := by
  by_cases hdot : c = 'İ'
  · have hnumber : isNumeric 'İ' = false :=
      isNumeric_eq_false_of_misses (n := 0x130) (by decide) (by decide +kernel)
    rw [hdot, lowerOf_dotted, hnumber]
    exact ⟨'i', ['\u0307'], rfl, by decide, by decide⟩
  · obtain ⟨c', heq, _, hnumber⟩ := lowerOf_spec hc hdot
    exact ⟨c', [], heq, hnumber⟩

theorem head_lowerWord_number {c : Char} (hc : isAlphanumeric c = true) (w : List Char) :
    ∃ c' rest, lowerWord (c :: w) = c' :: rest ∧ isNumeric c' = isNumeric c ∧
      c'.isDigit = c.isDigit := by
  obtain ⟨c', rest, heq, hnumber⟩ := head_lowerOf hc
  cases w with
  | nil =>
    unfold lowerWord
    split
    · rename_i hsigma
      have hfinal : isNumeric 'ς' = false :=
        isNumeric_eq_false_of_misses (n := 0x3C2) (by decide) (by decide +kernel)
      have hcapital : isNumeric 'Σ' = false :=
        isNumeric_eq_false_of_misses (n := 0x3A3) (by decide) (by decide +kernel)
      exact ⟨'ς', [], rfl, by rw [hsigma, hfinal, hcapital], by rw [hsigma]; decide⟩
    · exact ⟨c', rest, heq, hnumber⟩
  | cons d w =>
    exact ⟨c', rest ++ lowerWord (d :: w), by rw [lowerWord, heq]; rfl; simp, hnumber⟩

/-- **A text in lower camel case begins with a number** exactly if its first letter or number is
one. -/
theorem head_lowerCamelWords (cs : List Char) :
    match cs.find? isAlphanumeric with
    | none => lowerCamelWords (words cs) = []
    | some c => ∃ c' rest, lowerCamelWords (words cs) = c' :: rest ∧
        isNumeric c' = isNumeric c ∧ c'.isDigit = c.isDigit := by
  induction cs with
  | nil => rfl
  | cons c cs ih =>
    cases hc : isAlphanumeric c with
    | false => rwa [List.find?_cons_of_neg (by simp [hc]), words_cons_of_separator hc]
    | true =>
      rw [List.find?_cons_of_pos hc]
      obtain ⟨w, ws, hwords⟩ := words_eq_cons hc cs
      obtain ⟨c', rest, heq, hnumber⟩ := head_lowerWord_number hc w
      exact ⟨c', rest ++ ws.flatMap capitalWord, by rw [hwords, lowerCamelWords, heq]; rfl, hnumber⟩

end Text

namespace Naming

open Text TypeScript

/-! ## Forms and guards -/

/-- The guards leave a form as it is, or put one underscore in front of a form that begins in
ASCII. -/
theorem guarded_cases (form : String) :
    (guardReserved (guardDigit form) = form ∧ ∀ c ∈ form.toList.head?, c.isDigit = false) ∨
      (guardReserved (guardDigit form) = "_" ++ form ∧ ∀ c ∈ form.toList.head?, c.toNat < 128) := by
  by_cases hdigit : form.toList.head?.any Char.isDigit = true
  · have hunreserved : isReserved ("_" ++ form) = false :=
      unreserved_of_mem (c := '_') (by simp) rfl
    refine Or.inr ⟨by rw [guardDigit, if_pos hdigit, guardReserved, hunreserved]; rfl, ?_⟩
    obtain ⟨c, hhead, hc⟩ := (Option.any_eq_true _ _).1 hdigit
    rw [hhead]
    rintro _ ⟨⟩
    refine Nat.lt_of_not_le fun hle => ?_
    rw [isDigit_eq_false_of_lt (by omega)] at hc
    cases hc
  · rw [guardDigit, if_neg hdigit, guardReserved]
    split
    · rename_i hreserved
      exact Or.inr ⟨rfl, fun c hc => toNat_lt_of_isLower
        (isLower_of_isReserved hreserved c (List.mem_of_mem_head? hc))⟩
    · refine Or.inl ⟨rfl, fun c hc => ?_⟩
      rw [hc] at hdigit
      exact Bool.eq_false_iff.2 hdigit

theorem unreserved_guardReserved (form : String) : isReserved (guardReserved form) = false := by
  unfold guardReserved
  split
  · exact unreserved_of_mem (c := '_') (by simp) rfl
  · rename_i h
    exact Bool.eq_false_iff.2 h

/-- The underscore in front does not count when a name is cased again. -/
theorem lowerCamel_guarded (form : String) :
    lowerCamel (guardReserved (guardDigit form)) = lowerCamel form := by
  rcases guarded_cases form with ⟨heq, _⟩ | ⟨heq, _⟩
  · rw [heq]
  · have hchars : ("_" ++ form).toList = '_' :: form.toList := by simp
    rw [heq, lowerCamel, hchars, words_cons_of_separator (by decide), lowerCamel]

/-- A sanitized name is what the guards leave of a form that is not empty. -/
theorem sanitized_cases (name : String) :
    (identifierForm name = "" ∧ sanitized name = "_empty") ∨
      (identifierForm name ≠ "" ∧
        sanitized name = guardReserved (guardDigit (identifierForm name))) := by
  unfold sanitized
  by_cases h : identifierForm name = ""
  · exact Or.inl ⟨h, if_pos h⟩
  · exact Or.inr ⟨h, if_neg h⟩

theorem identifierForm_of_not {name : String} (h : ¬ isIdentifier name = true) :
    identifierForm name = lowerCamel name :=
  if_neg h

/-- A name that is an identifier becomes a valid name. -/
theorem validName_sanitized_of_isIdentifier {name : String} (h : isIdentifier name = true) :
    ValidName (sanitized name) := by
  refine validName_sanitized_of_form fun c hc => ?_
  rw [identifierForm, if_pos h] at hc
  exact forall_part_of_isIdentifier h c hc

theorem not_isDigit_of_isIdentifierStart {c : Char} (h : isIdentifierStart c = true) :
    c.isDigit = false :=
  forall_ascii (P := fun c => isIdentifierStart c = true → c.isDigit = false) (by decide +kernel)
    (toNat_lt_of_isIdentifierPart (isIdentifierPart_of_start h)) h

/-- A valid name stays as it is. -/
theorem sanitized_of_validName {name : String} (h : ValidName name) : sanitized name = name := by
  obtain ⟨c, cs, hname, hstart⟩ := exists_start_of_isIdentifier h.identifier
  have hdigit := not_isDigit_of_isIdentifierStart hstart
  have hform : identifierForm name = name := if_pos h.identifier
  have hguard : guardDigit name = name := by
    rw [guardDigit, hname, if_neg (by simp [hdigit])]
  unfold sanitized
  simp only [hform, if_neg h.nonempty, hguard, guardReserved, h.unreserved, Bool.false_eq_true,
    if_false]

theorem sanitized_ne_empty (name : String) : sanitized name ≠ "" := by
  rcases sanitized_cases name with ⟨_, heq⟩ | ⟨hform, heq⟩
  · rw [heq]
    decide
  · rw [heq]
    rcases guarded_cases (identifierForm name) with ⟨hguard, _⟩ | ⟨hguard, _⟩
    · rwa [hguard]
    · intro hempty
      have hchars := congrArg String.toList (hguard.symm.trans hempty)
      simp at hchars

theorem unreserved_sanitized (name : String) : isReserved (sanitized name) = false := by
  rcases sanitized_cases name with ⟨_, heq⟩ | ⟨_, heq⟩
  · rw [heq]
    decide
  · rw [heq]
    exact unreserved_guardReserved _

/-- A sanitized name that is no identifier is a guarded name in lower camel case. -/
theorem sanitized_of_not_isIdentifier {name : String} (h : ¬ isIdentifier (sanitized name) = true) :
    lowerCamel name ≠ "" ∧ sanitized name = guardReserved (guardDigit (lowerCamel name)) := by
  have hname : ¬ isIdentifier name = true := fun hname =>
    h (validName_sanitized_of_isIdentifier hname).identifier
  have hcases := sanitized_cases name
  rw [identifierForm_of_not hname] at hcases
  rcases hcases with ⟨_, heq⟩ | hcases
  · rw [heq] at h
    exact absurd (by decide) h
  · exact hcases

/-! ## Characters -/

theorem underscore_not_mem_lowerCamel (name : String) : '_' ∉ (lowerCamel name).toList :=
  fun h => absurd (isWordChar_of_mem_lowerCamel h) (by decide)

/-- **A sanitized name is an identifier exactly if it is ASCII.** -/
theorem isIdentifier_sanitized_iff (name : String) :
    isIdentifier (sanitized name) = true ↔ IsAscii (sanitized name) := by
  constructor
  · intro h c hc
    exact toNat_lt_of_isIdentifierPart (forall_part_of_isIdentifier h c hc)
  · intro hascii
    by_contra h
    obtain ⟨hne, heq⟩ := sanitized_of_not_isIdentifier h
    refine h (heq ▸ (validName_guarded hne fun c hc => ?_).identifier)
    have hmem : c ∈ (sanitized name).toList := by
      rw [heq]
      rcases guarded_cases (lowerCamel name) with ⟨hguard, _⟩ | ⟨hguard, _⟩
      · rwa [hguard]
      · rw [hguard, String.toList_append]
        exact List.mem_append_right _ hc
    have hword := isWordChar_of_mem_lowerCamel hc
    rw [isWordChar, decide_eq_false (by have := hascii c hmem; omega), Bool.or_false] at hword
    exact isIdentifierPart_of_isAlphanum hword

/-- The character is a letter or number, an underscore or a dollar sign. -/
def IsPlain (c : Char) : Prop :=
  isAlphanumeric c = true ∨ c = '_' ∨ c = '$'

theorem isPlain_of_isIdentifierPart {c : Char} (h : isIdentifierPart c = true) : IsPlain c := by
  have hascii := toNat_lt_of_isIdentifierPart h
  simp only [isIdentifierPart, Bool.or_eq_true, beq_iff_eq] at h
  rcases h with (h | h) | h
  · exact Or.inl ((isAlphanumeric_ascii hascii).trans h)
  · exact Or.inr (Or.inl h)
  · exact Or.inr (Or.inr h)

theorem plain_lowerCamel_iff (name : String) :
    (∀ c ∈ (lowerCamel name).toList, IsPlain c) ↔ CamelPlain (words name.toList) := by
  rw [← plain_lowerCamelWords_iff isAlphanumeric_of_mem_words, lowerCamel, String.toList_ofList]
  refine forall₂_congr fun c hc => ⟨fun h => ?_, Or.inl⟩
  have hword : isWordChar c = true :=
    isWordChar_of_mem_lowerCamel (s := name) (by rwa [lowerCamel, String.toList_ofList])
  rcases h with h | rfl | rfl
  · exact h
  · exact absurd hword (by decide)
  · exact absurd hword (by decide)

/-- **Which sanitized names have nothing but letters, numbers, underscores and dollar signs.** -/
theorem plain_sanitized_iff (name : String) :
    (∀ c ∈ (sanitized name).toList, IsPlain c) ↔
      isIdentifier name = true ∨ CamelPlain (words name.toList) := by
  by_cases hname : isIdentifier name = true
  · have hvalid := (validName_sanitized_of_isIdentifier hname).identifier
    exact iff_of_true
      (fun c hc => isPlain_of_isIdentifierPart (forall_part_of_isIdentifier hvalid c hc))
      (Or.inl hname)
  · have hcases := sanitized_cases name
    rw [identifierForm_of_not hname] at hcases
    rw [or_iff_right hname, ← plain_lowerCamel_iff]
    rcases hcases with ⟨hempty, heq⟩ | ⟨_, heq⟩
    · rw [heq, hempty]
      refine iff_of_true (fun c hc => isPlain_of_isIdentifierPart ?_) nofun
      exact forall_part_of_isIdentifier (by decide) c hc
    · rw [heq]
      rcases guarded_cases (lowerCamel name) with ⟨hguard, _⟩ | ⟨hguard, _⟩
      · rw [hguard]
      · have hchars : ("_" ++ lowerCamel name).toList = '_' :: (lowerCamel name).toList := by simp
        have hfront : IsPlain '_' := Or.inr (Or.inl rfl)
        rw [hguard, hchars, List.forall_mem_cons, and_iff_right hfront]

/-! ## Beginnings -/

/-- The name begins with a number of some script. -/
def BeginsNumeric (name : String) : Prop :=
  ∃ c ∈ name.toList.head?, isNumeric c = true

theorem isNumeric_and_beyond_iff {c : Char} :
    isNumeric c = true ∧ 128 ≤ c.toNat ↔ isNumeric c = true ∧ c.isDigit = false := by
  refine and_congr_right fun hnumeric => ⟨fun h => isDigit_eq_false_of_lt (by omega), fun h => ?_⟩
  refine Nat.le_of_not_lt fun hlt => ?_
  rw [isNumeric, if_pos hlt, h] at hnumeric
  cases hnumeric

theorem not_beginsNumeric_of_isIdentifier {name : String} (h : isIdentifier name = true) :
    ¬ BeginsNumeric name := by
  rintro ⟨c, hc, hnumeric⟩
  obtain ⟨c', cs, hname, hstart⟩ := exists_start_of_isIdentifier h
  rw [hname] at hc
  obtain rfl := Option.some.inj hc
  rw [isNumeric, if_pos (toNat_lt_of_isIdentifierPart (isIdentifierPart_of_start hstart)),
    not_isDigit_of_isIdentifierStart hstart] at hnumeric
  cases hnumeric

theorem not_beginsNumeric_underscore_append (name : String) : ¬ BeginsNumeric ("_" ++ name) := by
  rintro ⟨c, hc, hnumeric⟩
  have hchars : ("_" ++ name).toList = '_' :: name.toList := by simp
  rw [hchars] at hc
  obtain rfl := Option.some.inj hc
  exact absurd hnumeric (by decide)

/-- The guards let a number pass exactly if it is beyond ASCII. -/
theorem beginsNumeric_guarded_iff (form : String) :
    BeginsNumeric (guardReserved (guardDigit form)) ↔
      ∃ c ∈ form.toList.head?, isNumeric c = true ∧ 128 ≤ c.toNat := by
  rcases guarded_cases form with ⟨hguard, hdigit⟩ | ⟨hguard, hascii⟩
  · rw [hguard]
    refine exists_congr fun c => and_congr_right fun hc => ?_
    rw [isNumeric_and_beyond_iff, and_iff_left (hdigit c hc)]
  · rw [hguard]
    refine iff_of_false (not_beginsNumeric_underscore_append form) ?_
    rintro ⟨c, hc, _, hbeyond⟩
    have := hascii c hc
    omega

/-- The first character of a name in lower camel case is a number beyond ASCII exactly if the first
letter or number of the name is one. -/
theorem head_lowerCamel_iff (name : String) :
    (∃ c ∈ (lowerCamel name).toList.head?, isNumeric c = true ∧ 128 ≤ c.toNat) ↔
      ∃ c ∈ name.toList.find? isAlphanumeric, isNumeric c = true ∧ 128 ≤ c.toNat := by
  have hhead := head_lowerCamelWords name.toList
  rw [lowerCamel, String.toList_ofList]
  cases hfind : name.toList.find? isAlphanumeric with
  | none =>
    rw [hfind] at hhead
    rw [hhead]
    exact iff_of_false (by simp) (by simp)
  | some c =>
    rw [hfind] at hhead
    obtain ⟨c', rest, heq, hnumeric, hdigit⟩ := hhead
    simp only [heq, List.head?_cons, Option.mem_some_iff, exists_eq_left']
    rw [isNumeric_and_beyond_iff, isNumeric_and_beyond_iff, hnumeric, hdigit]

/-- **A sanitized name begins with a number** exactly if the first letter or number of the name is a
number beyond ASCII. -/
theorem beginsNumeric_sanitized_iff (name : String) :
    BeginsNumeric (sanitized name) ↔
      ∃ c ∈ name.toList.find? isAlphanumeric, isNumeric c = true ∧ 128 ≤ c.toNat := by
  by_cases hname : isIdentifier name = true
  · refine iff_of_false
      (not_beginsNumeric_of_isIdentifier (validName_sanitized_of_isIdentifier hname).identifier) ?_
    rintro ⟨c, hc, _, hbeyond⟩
    have := toNat_lt_of_isIdentifierPart
      (forall_part_of_isIdentifier hname c (List.mem_of_find?_eq_some hc))
    omega
  · have hcases := sanitized_cases name
    rw [identifierForm_of_not hname] at hcases
    rw [← head_lowerCamel_iff]
    rcases hcases with ⟨hempty, heq⟩ | ⟨_, heq⟩
    · rw [heq, hempty]
      exact iff_of_false (not_beginsNumeric_of_isIdentifier (by decide)) nofun
    · rw [heq, beginsNumeric_guarded_iff]

/-! ## Sanitizing again -/

/-- Guarded forms are told apart, as no form has an underscore of its own. -/
theorem guarded_inj {a b : String} (ha : '_' ∉ a.toList) (hb : '_' ∉ b.toList)
    (h : guardReserved (guardDigit a) = guardReserved (guardDigit b)) : a = b := by
  have happend : ∀ s : String, '_' ∈ ("_" ++ s).toList := by simp
  rcases guarded_cases a with ⟨hguard, _⟩ | ⟨hguard, _⟩ <;>
    rcases guarded_cases b with ⟨hguard', _⟩ | ⟨hguard', _⟩ <;> rw [hguard, hguard'] at h
  · exact h
  · exact absurd (h ▸ happend b) ha
  · exact absurd (h ▸ happend a) hb
  · rw [← String.toList_inj, String.toList_append, String.toList_append] at h
    exact String.toList_inj.1 (List.append_cancel_left h)

/-- **Which sanitized names stay as they are** when they are sanitized again: identifiers, and
otherwise exactly those whose form is in lower camel case, up to the underscore of a guard. -/
theorem sanitized_sanitized_iff (name : String) :
    sanitized (sanitized name) = sanitized name ↔
      isIdentifier (sanitized name) = true ∨ IsCamel (lowerCamel name).toList := by
  by_cases h : isIdentifier (sanitized name) = true
  · exact iff_of_true
      (sanitized_of_validName ⟨sanitized_ne_empty name, h, unreserved_sanitized name⟩) (Or.inl h)
  · obtain ⟨hne, heq⟩ := sanitized_of_not_isIdentifier h
    have hagain := sanitized_cases (sanitized name)
    rw [identifierForm_of_not h, heq, lowerCamel_guarded, ← heq] at hagain
    have hsame : IsCamel (lowerCamel name).toList ↔
        lowerCamel (lowerCamel name) = lowerCamel name := by
      rw [← lowerCamelWords_eq_self_iff, ← String.toList_inj, lowerCamel.eq_1 (lowerCamel name),
        String.toList_ofList]
    rw [or_iff_right h, hsame]
    constructor
    · intro hfixed
      rcases hagain with ⟨_, hempty⟩ | ⟨_, hguarded⟩
      · rw [← hfixed, hempty] at h
        exact absurd (by decide) h
      · refine guarded_inj (underscore_not_mem_lowerCamel _) (underscore_not_mem_lowerCamel _) ?_
        rw [← hguarded, ← heq, hfixed]
    · intro hcamel
      rcases hagain with ⟨hempty, _⟩ | ⟨_, hguarded⟩
      · exact absurd (hcamel.symm.trans hempty) hne
      · rw [hguarded, hcamel, ← heq]

/-- **What becomes of any name that is sanitized.** The result is not empty and no reserved word. It
is an identifier exactly if it is ASCII, as it is for every ASCII name. It consists of letters,
numbers, underscores and dollar signs exactly if the name is an identifier, or no letter of its
words is cased to one with a combining mark. It begins with a number exactly if the first letter or
number of the name is a number beyond ASCII, which the guard against digits lets pass. And it stays
as it is when it is sanitized again exactly if it is an identifier, or casing changes nothing in the
form that casing has given the name. -/
theorem sanitized_spec (name : String) :
    sanitized name ≠ "" ∧ isReserved (sanitized name) = false ∧
    (isIdentifier (sanitized name) = true ↔ IsAscii (sanitized name)) ∧
    (IsAscii name → IsAscii (sanitized name)) ∧
    ((∀ c ∈ (sanitized name).toList, IsPlain c) ↔
      isIdentifier name = true ∨ CamelPlain (words name.toList)) ∧
    (BeginsNumeric (sanitized name) ↔
      ∃ c ∈ name.toList.find? isAlphanumeric, isNumeric c = true ∧ 128 ≤ c.toNat) ∧
    (sanitized (sanitized name) = sanitized name ↔
      isIdentifier (sanitized name) = true ∨ IsCamel (lowerCamel name).toList) :=
  ⟨sanitized_ne_empty name, unreserved_sanitized name, isIdentifier_sanitized_iff name,
    fun h => (isIdentifier_sanitized_iff name).1 (validName_sanitized h).identifier,
    plain_sanitized_iff name, beginsNumeric_sanitized_iff name, sanitized_sanitized_iff name⟩

theorem beginsNumeric_devanagari : BeginsNumeric (sanitized "१st") := by
  have hnumeric : isNumeric '१' = true := by decide +kernel
  have hword : isAlphanumeric '१' = true := by rw [isAlphanumeric, hnumeric, Bool.or_true]
  exact (beginsNumeric_sanitized_iff _).2
    ⟨'१', List.find?_cons_of_pos hword, hnumeric, by decide⟩

theorem not_plain_dotted : ¬ ∀ c ∈ (sanitized "İ").toList, IsPlain c := by
  have hplain : ¬ CamelPlain (words "İ".toList) := by
    obtain ⟨w, ws, hwords⟩ := words_eq_cons (c := 'İ') (by decide +kernel) []
    have htext : "İ".toList = ['İ'] := by decide
    rw [htext, hwords]
    exact not_and_of_not_left _ (not_not_intro (List.mem_cons_self ..))
  rw [plain_sanitized_iff, not_or]
  exact ⟨by decide, hplain⟩

theorem lowerOf_accented : lowerOf 'é' = ['é'] := by
  have hmisses : lowerShifts.toList.all (fun s => s.run.misses 0xE9 0xE9) = true := by
    decide +kernel
  have hself : shifted lowerShifts 'é' = 'é' := shifted_eq_self hmisses
  have hshort : longLowers.lookup 'é'.toNat = none := by decide
  rw [lowerOf, if_neg (by decide), hshort, hself]

/-- A name whose first word is `é` is cased anew whenever it is sanitized. -/
theorem sanitized_accented {name : String} {ws : List (List Char)}
    (hname : isIdentifier name = false) (hwords : words name.toList = ['é'] :: ws) :
    sanitized name = String.ofList ('é' :: ws.flatMap capitalWord) := by
  have hcamel : lowerCamel name = String.ofList ('é' :: ws.flatMap capitalWord) := by
    rw [lowerCamel, hwords, lowerCamelWords, lowerWord, if_neg (by decide), lowerOf_accented,
      List.singleton_append]
  have hmem : 'é' ∈ (lowerCamel name).toList := by
    rw [hcamel, String.toList_ofList]
    exact List.mem_cons_self ..
  have hnonempty : lowerCamel name ≠ "" := fun hempty => by
    rw [hempty] at hmem
    cases hmem
  have hdigit : guardDigit (lowerCamel name) = lowerCamel name := by
    rw [guardDigit, if_neg]
    rw [hcamel, String.toList_ofList, List.head?_cons, Option.any_some]
    decide
  have hreserved : isReserved (lowerCamel name) = false := unreserved_of_mem hmem (by decide)
  have hform : identifierForm name = lowerCamel name := by
    rw [identifierForm, hname, if_neg Bool.false_ne_true]
  rw [sanitized, hform, if_neg hnonempty, hdigit, guardReserved, hreserved,
    if_neg Bool.false_ne_true, hcamel]

/-- Beyond ASCII not all of it holds: a digit of another script stays in front, a capital brings in
a combining mark, and words of one letter are joined when they are cased again. -/
theorem sanitized_beyond_ascii :
    (¬ ∀ name, sanitized name ≠ "" ∧ (∀ c ∈ (sanitized name).toList, IsPlain c) ∧
      ¬ BeginsNumeric (sanitized name) ∧ isReserved (sanitized name) = false ∧
      sanitized (sanitized name) = sanitized name) ∧
    BeginsNumeric (sanitized "१st") ∧ (¬ ∀ c ∈ (sanitized "İ").toList, IsPlain c) ∧
    sanitized "é-a-b" = "éAB" ∧ sanitized (sanitized "é-a-b") = "éAb" := by
  have hcamel : sanitized "é-a-b" = "éAB" := by
    have hwords : words "é-a-b".toList = [['é'], ['a'], ['b']] := by decide +kernel
    exact (sanitized_accented (by decide) hwords).trans (by decide)
  have hagain : sanitized "éAB" = "éAb" := by
    have hwords : words "éAB".toList = [['é'], ['A', 'B']] := by decide +kernel
    exact (sanitized_accented (by decide) hwords).trans (by decide)
  refine ⟨fun h => (h "१st").2.2.1 beginsNumeric_devanagari, beginsNumeric_devanagari,
    not_plain_dotted, hcamel, ?_⟩
  rw [hcamel, hagain]

end Naming

end TypedRequests
