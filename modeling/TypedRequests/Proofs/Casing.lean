import TypedRequests.Naming

/-!
# Characters of generated names

Words are made of letters and numbers, and casing keeps them so, up to what Unicode adds beyond
ASCII. A cased name therefore has no ASCII character but letters and digits: no quote, no slash, no
point.

* `isWordChar` : an ASCII letter or digit, or a character beyond ASCII.
* `isWordChar_of_mem_upperOf`, `isWordChar_of_mem_lowerOf` : casing keeps the class.
* `CasedFrom`, `exists_of_mem_lowerCamel`, `exists_of_mem_pascal` : where the characters of cased
  names come from.
* `isWordChar_of_mem_lowerCamel`, `isWordChar_of_mem_pascal` : names are made of the class.
* `Naming.withoutQuotes_of_isWordChar`, `Naming.tagDirectory_spec` : what this means for names of
  types and of directories.
-/

set_option autoImplicit false

namespace TypedRequests.Text

/-- The character is an ASCII letter or digit, or lies beyond ASCII. -/
def isWordChar (c : Char) : Bool :=
  c.isAlphanum || decide (128 ≤ c.toNat)

theorem isWordChar_of_le {c : Char} (h : 128 ≤ c.toNat) : isWordChar c = true := by
  simp [isWordChar, h]

theorem isWordChar_of_isAlphanumeric {c : Char} (h : isAlphanumeric c = true) :
    isWordChar c = true := by
  by_cases hc : c.toNat < 128
  · rw [isAlphanumeric_ascii hc] at h
    simp [isWordChar, h]
  · exact isWordChar_of_le (Nat.le_of_not_lt hc)

/-- What holds of every ASCII character may be checked on their codes. -/
theorem forall_ascii {P : Char → Prop} (h : ∀ n < 128, P (Char.ofNat n)) {c : Char}
    (hc : c.toNat < 128) : P c := by
  have := h c.toNat hc
  rwa [Char.ofNat_toNat] at this

/-! ## Casing of characters -/

/-- The partners of the characters of a run lie beyond ASCII, or the run is a single character
whose partner is an ASCII letter. -/
def ShiftedRun.staysWord (s : ShiftedRun) : Bool :=
  (decide (128 ≤ s.run.first + s.shift) &&
      (decide (s.run.last + s.shift < 0xD800) ||
        decide (0xDFFF < s.run.first + s.shift ∧ s.run.last + s.shift < 0x110000))) ||
    (s.run.first == s.run.last && isWordChar (Char.ofNat (s.run.first + s.shift).toNat))

theorem toNat_ofNat {n : Nat} (h : n.isValidChar) : (Char.ofNat n).toNat = n := by
  rw [Char.ofNat, dif_pos h]
  rfl

theorem isWordChar_shifted {table : Array ShiftedRun}
    (htable : table.toList.all ShiftedRun.staysWord = true) {c : Char} (hc : 128 ≤ c.toNat) :
    isWordChar (shifted table c) = true := by
  unfold shifted
  cases hf : table.find? fun s => decide (s.run.Contains c.toNat) with
  | none => exact isWordChar_of_le hc
  | some s =>
    have hcontains :=
      Array.find?_some (p := fun s : ShiftedRun => decide (s.run.Contains c.toNat)) hf
    obtain ⟨hfirst, hlast, _⟩ := of_decide_eq_true hcontains
    have hs := List.all_eq_true.1 htable s (Array.mem_toList_iff.2 (Array.mem_of_find?_eq_some hf))
    simp only [ShiftedRun.staysWord, Bool.or_eq_true, Bool.and_eq_true, decide_eq_true_eq,
      beq_iff_eq] at hs
    rcases hs with ⟨hlow, hhigh⟩ | ⟨hsingle, hword⟩
    · apply isWordChar_of_le
      rw [toNat_ofNat]
      · omega
      · rcases hhigh with h | h
        · exact Or.inl (by omega)
        · exact Or.inr (by omega)
    · have hcode : c.toNat = s.run.first := by omega
      rw [hcode]
      exact hword

theorem shifts_stayWord : upperShifts.toList.all ShiftedRun.staysWord = true ∧
    lowerShifts.toList.all ShiftedRun.staysWord = true := by
  decide +kernel

/-- Casing keeps the class, if it does so below 128 and in its tables. -/
theorem isWordChar_of_mem_cased {ascii : Char → Char} {long : List (Nat × List Nat)}
    {table : Array ShiftedRun}
    (hascii : ∀ n < 128, isWordChar (Char.ofNat n) = true →
      isWordChar (ascii (Char.ofNat n)) = true)
    (hlong : ∀ e ∈ long, ∀ n ∈ e.2, isWordChar (Char.ofNat n) = true)
    (htable : table.toList.all ShiftedRun.staysWord = true) {c c' : Char} (hc : isWordChar c = true)
    (h : c' ∈ if c.toNat < 128 then [ascii c] else match long.lookup c.toNat with
      | some codes => codes.map Char.ofNat
      | none => [shifted table c]) : isWordChar c' = true := by
  split at h
  · rename_i hlow
    obtain rfl := List.mem_singleton.1 h
    exact forall_ascii (P := fun c => isWordChar c = true → isWordChar (ascii c) = true)
      hascii hlow hc
  · rename_i hhigh
    split at h
    · rename_i codes hl
      obtain ⟨n, hn, rfl⟩ := List.mem_map.1 h
      obtain ⟨before, after, rfl, _⟩ := List.lookup_eq_some_iff.1 hl
      exact hlong _ (List.mem_append_right _ (List.mem_cons_self ..)) n hn
    · obtain rfl := List.mem_singleton.1 h
      exact isWordChar_shifted htable (Nat.le_of_not_lt hhigh)

theorem isWordChar_of_mem_upperOf {c c' : Char} (hc : isWordChar c = true) (h : c' ∈ upperOf c) :
    isWordChar c' = true := by
  unfold upperOf at h
  exact isWordChar_of_mem_cased (by decide +kernel) (by decide +kernel) shifts_stayWord.1 hc h

theorem isWordChar_of_mem_lowerOf {c c' : Char} (hc : isWordChar c = true) (h : c' ∈ lowerOf c) :
    isWordChar c' = true := by
  unfold lowerOf at h
  exact isWordChar_of_mem_cased (by decide +kernel) (by decide +kernel) shifts_stayWord.2 hc h

/-! ## Characters of cased names -/

/-- Casing can put the second character in the place of the first. -/
inductive CasedFrom (c : Char) : Char → Prop where
  | lower {c' : Char} (h : c' ∈ lowerOf c) : CasedFrom c c'
  | upper {c' : Char} (h : c' ∈ upperOf c) : CasedFrom c c'
  | finalSigma (h : c = 'Σ') : CasedFrom c 'ς'

theorem CasedFrom.isWordChar {c c' : Char} (h : CasedFrom c c') (hc : isWordChar c = true) :
    isWordChar c' = true := by
  cases h with
  | lower h => exact isWordChar_of_mem_lowerOf hc h
  | upper h => exact isWordChar_of_mem_upperOf hc h
  | finalSigma _ => rfl

theorem mem_closeWord {word w : List Char} (h : w ∈ closeWord word) {c : Char} (hc : c ∈ w) :
    c ∈ word := by
  unfold closeWord at h
  split at h
  · cases h
  · obtain rfl := List.mem_singleton.1 h
    exact List.mem_reverse.1 hc

/-- The characters of words were read before, or are letters and numbers of the text. -/
theorem mem_wordsFrom {mode : CaseMode} {word cs w : List Char}
    (hw : w ∈ wordsFrom mode word cs) {c : Char} (hc : c ∈ w) :
    c ∈ word ∨ c ∈ cs ∧ isAlphanumeric c = true := by
  induction cs generalizing mode word with
  | nil => exact Or.inl (mem_closeWord hw hc)
  | cons a cs ih =>
    have hrest : ∀ {mode : CaseMode} {read : List Char}, w ∈ wordsFrom mode read cs →
        c ∈ read ∨ c ∈ a :: cs ∧ isAlphanumeric c = true := fun hw =>
      (ih hw).imp_right fun h => ⟨List.mem_cons_of_mem a h.1, h.2⟩
    unfold wordsFrom at hw
    split at hw
    · rename_i ha
      have hread : c ∈ a :: word → c ∈ word ∨ c ∈ a :: cs ∧ isAlphanumeric c = true := by
        intro hc
        rcases List.mem_cons.1 hc with rfl | hc
        · exact Or.inr ⟨List.mem_cons_self .., ha⟩
        · exact Or.inl hc
      split at hw
      · rcases List.mem_cons.1 hw with rfl | hw
        · exact hread (List.mem_reverse.1 hc)
        · exact (hrest hw).imp_left nofun
      · split at hw
        · rcases List.mem_cons.1 hw with rfl | hw
          · exact Or.inl (List.mem_reverse.1 hc)
          · refine (hrest hw).elim (fun hc => hread ?_) Or.inr
            exact List.mem_cons.2 (Or.inl (List.mem_singleton.1 hc))
        · exact (hrest hw).elim hread Or.inr
    · rcases List.mem_append.1 hw with hw | hw
      · exact Or.inl (mem_closeWord hw hc)
      · exact (hrest hw).imp_left nofun

theorem mem_words {cs w : List Char} (hw : w ∈ words cs) {c : Char} (hc : c ∈ w) :
    c ∈ cs ∧ isAlphanumeric c = true :=
  (mem_wordsFrom hw hc).resolve_left nofun

theorem exists_of_mem_lowerWord {w : List Char} {c' : Char} (hc' : c' ∈ lowerWord w) :
    ∃ c ∈ w, CasedFrom c c' := by
  induction w with
  | nil => cases hc'
  | cons a w ih =>
    unfold lowerWord at hc'
    split at hc'
    · cases hc'
    · rename_i heq
      cases heq
      refine ⟨a, List.mem_cons_self .., ?_⟩
      split at hc'
      · rename_i ha
        obtain rfl := List.mem_singleton.1 hc'
        exact .finalSigma ha
      · exact .lower hc'
    · rename_i heq
      cases heq
      rcases List.mem_append.1 hc' with hc' | hc'
      · exact ⟨a, List.mem_cons_self .., .lower hc'⟩
      · obtain ⟨c, hc, h⟩ := ih hc'
        exact ⟨c, List.mem_cons_of_mem a hc, h⟩

theorem exists_of_mem_capitalWord {w : List Char} {c' : Char} (hc' : c' ∈ capitalWord w) :
    ∃ c ∈ w, CasedFrom c c' := by
  cases w with
  | nil => cases hc'
  | cons a w =>
    rcases List.mem_append.1 hc' with hc' | hc'
    · exact ⟨a, List.mem_cons_self .., .upper hc'⟩
    · obtain ⟨c, hc, h⟩ := exists_of_mem_lowerWord hc'
      exact ⟨c, List.mem_cons_of_mem a hc, h⟩

theorem exists_of_mem_flatMap_capitalWord {ws : List (List Char)} {c' : Char}
    (hc' : c' ∈ ws.flatMap capitalWord) : ∃ w ∈ ws, ∃ c ∈ w, CasedFrom c c' := by
  obtain ⟨w, hw, hc'⟩ := List.mem_flatMap.1 hc'
  exact ⟨w, hw, exists_of_mem_capitalWord hc'⟩

/-- **The characters of a name in lower camel case** stand for letters and numbers of the name. -/
theorem exists_of_mem_lowerCamel {s : String} {c' : Char} (hc' : c' ∈ (lowerCamel s).toList) :
    ∃ c ∈ s.toList, isAlphanumeric c = true ∧ CasedFrom c c' := by
  obtain ⟨w, hw, c, hc, h⟩ : ∃ w ∈ words s.toList, ∃ c ∈ w, CasedFrom c c' := by
    rw [lowerCamel, String.toList_ofList] at hc'
    cases hwords : words s.toList with
    | nil =>
      rw [hwords] at hc'
      cases hc'
    | cons w ws =>
      rw [hwords] at hc'
      rcases List.mem_append.1 hc' with hc' | hc'
      · exact ⟨w, List.mem_cons_self .., exists_of_mem_lowerWord hc'⟩
      · obtain ⟨v, hv, h⟩ := exists_of_mem_flatMap_capitalWord hc'
        exact ⟨v, List.mem_cons_of_mem w hv, h⟩
  exact ⟨c, (mem_words hw hc).1, (mem_words hw hc).2, h⟩

/-- **The characters of a name in Pascal case** stand for letters and numbers of the name. -/
theorem exists_of_mem_pascal {s : String} {c' : Char} (hc' : c' ∈ (pascal s).toList) :
    ∃ c ∈ s.toList, isAlphanumeric c = true ∧ CasedFrom c c' := by
  rw [pascal, String.toList_ofList] at hc'
  obtain ⟨w, hw, c, hc, h⟩ := exists_of_mem_flatMap_capitalWord hc'
  exact ⟨c, (mem_words hw hc).1, (mem_words hw hc).2, h⟩

/-- **A name in lower camel case has no ASCII character but letters and digits.** -/
theorem isWordChar_of_mem_lowerCamel {s : String} {c : Char} (hc : c ∈ (lowerCamel s).toList) :
    isWordChar c = true := by
  obtain ⟨_, _, hword, h⟩ := exists_of_mem_lowerCamel hc
  exact h.isWordChar (isWordChar_of_isAlphanumeric hword)

/-- **A name in Pascal case has no ASCII character but letters and digits.** -/
theorem isWordChar_of_mem_pascal {s : String} {c : Char} (hc : c ∈ (pascal s).toList) :
    isWordChar c = true := by
  obtain ⟨_, _, hword, h⟩ := exists_of_mem_pascal hc
  exact h.isWordChar (isWordChar_of_isAlphanumeric hword)

end TypedRequests.Text

namespace TypedRequests.Naming

open Text

/-! ## Names -/

/-- A name of word characters has no quotes to lose. -/
theorem withoutQuotes_of_isWordChar {name : String}
    (h : ∀ c ∈ name.toList, isWordChar c = true) : withoutQuotes name = name := by
  rw [withoutQuotes, List.filter_eq_self.2, String.ofList_toList]
  intro c hc
  have := h c hc
  by_cases hq : isQuote c = true
  · simp only [isQuote, Bool.or_eq_true, beq_iff_eq] at hq
    rcases hq with (rfl | rfl) | rfl <;> exact absurd this (by decide +kernel)
  · simpa using hq

theorem isWordChar_of_mem_queryTypeName {function : String} {c : Char}
    (hc : c ∈ (queryTypeName function).toList) : isWordChar c = true := by
  rw [queryTypeName, String.toList_append] at hc
  rcases List.mem_append.1 hc with hc | hc
  · exact isWordChar_of_mem_pascal hc
  · have hall : "Query".toList.all isWordChar = true := by decide +kernel
    exact List.all_eq_true.1 hall c hc

/-- **The directory of a tag is a single part of a path**: it is not empty, has no slash, and is
not a point or two. -/
theorem tagDirectory_spec (tag : String) :
    tagDirectory tag ≠ "" ∧ ∀ c ∈ (tagDirectory tag).toList, isWordChar c = true := by
  unfold tagDirectory
  by_cases h : lowerCamel tag = ""
  · simp [h, isWordChar]
  · simp only [h, if_false]
    exact ⟨h, fun c hc => isWordChar_of_mem_lowerCamel hc⟩

end TypedRequests.Naming
