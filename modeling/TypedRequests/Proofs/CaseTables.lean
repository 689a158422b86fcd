import Mathlib.Data.List.Chain
import TypedRequests.Proofs.Casing

/-!
# Letters and numbers in the case tables

What casing makes of a letter or a number begins with a letter or a number again, and it is a number
exactly if it was one before. The tables of the case mappings are compared with those of letters and
numbers run by run; where a run does not lie in a single one of the other table, code by code.

* `CodeRun.spans`, `CodeRun.misses`, `CodeRun.clear` : a run has all codes of a range, or none, and
  no run of a table in order has any.
* `casedLetters` : the runs of letters that casing leads to.
* `tables_checked` : what is evaluated on the tables; everything else is derived from it.
* `isAlphanumeric_shifted`, `isNumeric_shifted` : partners of letters and numbers.
* `lowerOf_spec` : the small form of a letter or number is one letter or number; the capital `İ` is
  the only exception.
* `Image`, `image_lowerOf`, `image_upperOf` : forms of a letter or number begin with such, and with
  the letter itself only if it is its own form.
-/

set_option autoImplicit false

namespace TypedRequests.Text

/-! ## Ranges of codes -/

namespace CodeRun

/-- The run has all codes from `low` to `high`. -/
def spans (low high : Nat) (r : CodeRun) : Bool :=
  Nat.ble r.first low && (Nat.ble high r.last && Nat.beq r.step 1)

/-- The run has no code from `low` to `high` between its ends. -/
def misses (low high : Nat) (r : CodeRun) : Bool :=
  Nat.blt high r.first || Nat.blt r.last low

/-- No run has a code from `low` to `high`, if the runs are in order: where one begins above them the
search is over. -/
def clear (low high : Nat) : List CodeRun → Bool
  | [] => true
  | r :: rs => Nat.blt high r.first || (Nat.blt r.last low && clear low high rs)

/-- The run has the code. -/
def has (n : Nat) (r : CodeRun) : Bool :=
  Nat.ble r.first n && (Nat.ble n r.last && Nat.beq ((n - r.first) % r.step) 0)

/-- The ends of the run are codes of characters beyond ASCII. -/
def isValid (r : CodeRun) : Bool :=
  Nat.ble 128 r.first &&
    (Nat.blt r.last 0xD800 || Nat.blt 0xDFFF r.first && Nat.blt r.last 0x110000)

variable {low high n : Nat} {r : CodeRun}

theorem contains_of_spans (h : r.spans low high = true) (hlow : low ≤ n) (hhigh : n ≤ high) :
    r.Contains n := by
  simp only [spans, Bool.and_eq_true, Nat.ble_eq, Nat.beq_eq] at h
  exact ⟨by omega, by omega, by rw [h.2.2, Nat.mod_one]⟩

theorem contains_of_has (h : r.has n = true) : r.Contains n := by
  simp only [has, Bool.and_eq_true, Nat.ble_eq, Nat.beq_eq] at h
  exact h

theorem not_contains_of_misses (h : r.misses low high = true) (hlow : low ≤ n) (hhigh : n ≤ high) :
    ¬ r.Contains n := by
  simp only [misses, Bool.or_eq_true, Nat.blt_eq] at h
  rintro ⟨hfirst, hlast, _⟩
  omega

theorem all_misses_of_clear {rs : List CodeRun} (hsorted : (rs.map first).Pairwise (· < ·))
    (h : clear low high rs = true) : rs.all (misses low high) = true := by
  induction rs with
  | nil => rfl
  | cons r rs ih =>
    rw [List.map_cons, List.pairwise_cons, List.forall_mem_map] at hsorted
    rw [clear, Bool.or_eq_true, Bool.and_eq_true] at h
    rw [List.all_cons, Bool.and_eq_true, misses, Bool.or_eq_true]
    rcases h with habove | ⟨hbelow, h⟩
    · refine ⟨Or.inl habove, List.all_eq_true.2 fun r' hr' => ?_⟩
      have hlater := hsorted.1 r' hr'
      rw [Nat.blt_eq] at habove
      rw [misses, Bool.or_eq_true, Nat.blt_eq]
      exact Or.inl (by omega)
    · exact ⟨Or.inr hbelow, ih hsorted.2 h⟩

theorem toNat_ofNat_of_isValid (h : r.isValid = true) (hn : r.Contains n) :
    (Char.ofNat n).toNat = n ∧ 128 ≤ n := by
  simp only [isValid, Bool.and_eq_true, Bool.or_eq_true, Nat.ble_eq, Nat.blt_eq] at h
  obtain ⟨hfirst, hlast, _⟩ := hn
  refine ⟨toNat_ofNat ?_, by omega⟩
  rcases h.2 with h | h
  · exact Or.inl (by omega)
  · exact Or.inr (by omega)

end CodeRun

/-! ## What is checked of the tables -/

namespace ShiftedRun

/-- The code of the partner. -/
def partner (s : ShiftedRun) (n : Nat) : Nat :=
  (n + s.shift).toNat

/-- The codes of the run. -/
def codes (s : ShiftedRun) : List Nat :=
  (List.range ((s.run.last - s.run.first) / s.run.step + 1)).map fun i =>
    s.run.first + s.run.step * i

end ShiftedRun

/-- The runs of letters in which the partners and the longer forms of letters lie. -/
def casedLetters : List CodeRun := [
  ⟨0xC0, 0xD6, 1⟩, ⟨0xD8, 0xF6, 1⟩, ⟨0xF8, 0x2C1, 1⟩, ⟨0x363, 0x374, 1⟩, ⟨0x376, 0x377, 1⟩,
  ⟨0x37A, 0x37D, 1⟩, ⟨0x37F, 0x37F, 1⟩, ⟨0x386, 0x386, 1⟩, ⟨0x388, 0x38A, 1⟩, ⟨0x38C, 0x38C, 1⟩,
  ⟨0x38E, 0x3A1, 1⟩, ⟨0x3A3, 0x3F5, 1⟩, ⟨0x3F7, 0x481, 1⟩, ⟨0x48A, 0x52F, 1⟩, ⟨0x531, 0x556, 1⟩,
  ⟨0x560, 0x588, 1⟩, ⟨0x10A0, 0x10C5, 1⟩, ⟨0x10C7, 0x10C7, 1⟩, ⟨0x10CD, 0x10CD, 1⟩,
  ⟨0x10D0, 0x10FA, 1⟩, ⟨0x10FC, 0x1248, 1⟩, ⟨0x13A0, 0x13F5, 1⟩, ⟨0x13F8, 0x13FD, 1⟩,
  ⟨0x1C80, 0x1C8A, 1⟩, ⟨0x1C90, 0x1CBA, 1⟩, ⟨0x1CBD, 0x1CBF, 1⟩, ⟨0x1D00, 0x1DBF, 1⟩,
  ⟨0x1E00, 0x1F15, 1⟩, ⟨0x1F18, 0x1F1D, 1⟩, ⟨0x1F20, 0x1F45, 1⟩, ⟨0x1F48, 0x1F4D, 1⟩,
  ⟨0x1F50, 0x1F57, 1⟩, ⟨0x1F59, 0x1F5D, 2⟩, ⟨0x1F5F, 0x1F7D, 1⟩, ⟨0x1F80, 0x1FB4, 1⟩,
  ⟨0x1FB6, 0x1FBC, 1⟩, ⟨0x1FC2, 0x1FC4, 1⟩, ⟨0x1FC6, 0x1FCC, 1⟩, ⟨0x1FD0, 0x1FD3, 1⟩,
  ⟨0x1FD6, 0x1FDB, 1⟩, ⟨0x1FE0, 0x1FEC, 1⟩, ⟨0x1FF2, 0x1FF4, 1⟩, ⟨0x1FF6, 0x1FFC, 1⟩,
  ⟨0x212F, 0x2139, 1⟩, ⟨0x214E, 0x214E, 1⟩, ⟨0x2160, 0x2188, 1⟩, ⟨0x24B6, 0x24E9, 1⟩,
  ⟨0x2C00, 0x2CE4, 1⟩, ⟨0x2CEB, 0x2CEE, 1⟩, ⟨0x2CF2, 0x2CF3, 1⟩, ⟨0x2D00, 0x2D25, 1⟩,
  ⟨0x2D27, 0x2D27, 1⟩, ⟨0x2D2D, 0x2D2D, 1⟩, ⟨0xA640, 0xA66E, 1⟩, ⟨0xA67F, 0xA6EF, 1⟩,
  ⟨0xA722, 0xA788, 1⟩, ⟨0xA78B, 0xA7DC, 1⟩, ⟨0xA7F1, 0xA805, 1⟩, ⟨0xAB30, 0xAB5A, 1⟩,
  ⟨0xAB70, 0xABEA, 1⟩, ⟨0xFF21, 0xFF3A, 1⟩, ⟨0xFF41, 0xFF5A, 1⟩, ⟨0x10400, 0x1049D, 1⟩,
  ⟨0x104B0, 0x104D3, 1⟩, ⟨0x104D8, 0x104FB, 1⟩, ⟨0x10570, 0x1057A, 1⟩, ⟨0x1057C, 0x1058A, 1⟩,
  ⟨0x1058C, 0x10592, 1⟩, ⟨0x10594, 0x10595, 1⟩, ⟨0x10597, 0x105A1, 1⟩, ⟨0x105A3, 0x105B1, 1⟩,
  ⟨0x105B3, 0x105B9, 1⟩, ⟨0x105BB, 0x105BC, 1⟩, ⟨0x10C80, 0x10CB2, 1⟩, ⟨0x10CC0, 0x10CF2, 1⟩,
  ⟨0x10D4A, 0x10D65, 1⟩, ⟨0x10D6F, 0x10D85, 1⟩, ⟨0x118A0, 0x118DF, 1⟩, ⟨0x16E40, 0x16E7F, 1⟩,
  ⟨0x16EA0, 0x16EB8, 1⟩, ⟨0x16EBB, 0x16ED3, 1⟩, ⟨0x1E900, 0x1E943, 1⟩]

/-- The code is that of an ASCII letter, or of a letter that casing leads to. -/
def isLetterCode (n : Nat) : Bool :=
  bif Nat.blt n 128 then (Char.ofNat n).isAlpha else casedLetters.any (CodeRun.has n)

namespace ShiftedRun

/-- The partners of the characters of the run are letters. -/
def reachesLetters (s : ShiftedRun) : Bool :=
  casedLetters.any (CodeRun.spans (s.partner s.run.first) (s.partner s.run.last)) ||
    s.codes.all fun n => isLetterCode (s.partner n)

/-- The run and its partners have no numbers, or nothing but numbers. -/
def keepsNumbers (s : ShiftedRun) : Bool :=
  (CodeRun.clear s.run.first s.run.last numericTable.toList &&
      (CodeRun.clear (s.partner s.run.first) (s.partner s.run.last) numericTable.toList &&
        Nat.blt 57 (s.partner s.run.first))) ||
    (numericTable.toList.any (CodeRun.spans s.run.first s.run.last) &&
      numericTable.toList.any (CodeRun.spans (s.partner s.run.first) (s.partner s.run.last)))

end ShiftedRun

/-- The form begins with the code of a letter, and not with the code it is for. -/
def beginsAnew (entry : Nat × List Nat) : Bool :=
  match entry.2 with
  | [] => false
  | n :: _ => isLetterCode n && !Nat.beq n entry.1

/-- **The tables fit together.** Their runs are compared in one evaluation. -/
theorem tables_checked :
    (alphabeticTable.toList.all CodeRun.isValid = true ∧
      numericTable.toList.all CodeRun.isValid = true ∧
      (numericTable.toList.map CodeRun.first).IsChain (· < ·) ∧
      casedLetters.isSublist alphabeticTable.toList = true) ∧
    (lowerShifts.toList.all ShiftedRun.reachesLetters = true ∧
      upperShifts.toList.all ShiftedRun.reachesLetters = true ∧
      lowerShifts.toList.all ShiftedRun.keepsNumbers = true) ∧
    longUppers.all beginsAnew = true ∧ lowerOf 'İ' = ['i', '\u0307'] := by
  decide +kernel

theorem alphabeticTable_isValid : alphabeticTable.toList.all CodeRun.isValid = true :=
  tables_checked.1.1

theorem numericTable_isValid : numericTable.toList.all CodeRun.isValid = true :=
  tables_checked.1.2.1

theorem numericTable_sorted : (numericTable.toList.map CodeRun.first).Pairwise (· < ·) :=
  List.isChain_iff_pairwise.1 tables_checked.1.2.2.1

theorem mem_alphabeticTable {r : CodeRun} (hr : r ∈ casedLetters) : r ∈ alphabeticTable.toList :=
  (List.isSublist_iff_sublist.1 tables_checked.1.2.2.2).subset hr

theorem lowerShifts_reachLetters : lowerShifts.toList.all ShiftedRun.reachesLetters = true :=
  tables_checked.2.1.1

theorem upperShifts_reachLetters : upperShifts.toList.all ShiftedRun.reachesLetters = true :=
  tables_checked.2.1.2.1

theorem lowerShifts_keepNumbers : lowerShifts.toList.all ShiftedRun.keepsNumbers = true :=
  tables_checked.2.1.2.2

theorem longUppers_beginAnew : longUppers.all beginsAnew = true :=
  tables_checked.2.2.1

theorem lowerOf_dotted : lowerOf 'İ' = ['i', '\u0307'] :=
  tables_checked.2.2.2

/-! ## Codes of letters and numbers -/

variable {low high n : Nat} {table : Array CodeRun} {c : Char}

theorem inTable_eq_true_iff :
    inTable c table = true ↔ ∃ r ∈ table.toList, r.Contains c.toNat := by
  rw [inTable, ← Array.any_toList, List.any_eq_true]
  simp only [decide_eq_true_eq]

theorem inTable_eq_false_of_misses (h : table.toList.all (CodeRun.misses low high) = true)
    (hlow : low ≤ c.toNat) (hhigh : c.toNat ≤ high) : inTable c table = false := by
  refine Bool.eq_false_iff.2 fun hin => ?_
  obtain ⟨r, hr, hcontains⟩ := inTable_eq_true_iff.1 hin
  exact CodeRun.not_contains_of_misses (List.all_eq_true.1 h r hr) hlow hhigh hcontains

/-- The codes of the table of letters are those of letters. -/
theorem isAlphanumeric_ofNat {r : CodeRun} (hr : r ∈ alphabeticTable.toList) (hn : r.Contains n) :
    isAlphanumeric (Char.ofNat n) = true ∧ (Char.ofNat n).toNat = n := by
  obtain ⟨hcode, hbeyond⟩ :=
    CodeRun.toNat_ofNat_of_isValid (List.all_eq_true.1 alphabeticTable_isValid r hr) hn
  have hin : inTable (Char.ofNat n) alphabeticTable = true :=
    inTable_eq_true_iff.2 ⟨r, hr, hcode.symm ▸ hn⟩
  exact ⟨by rw [isAlphanumeric, isAlphabetic, hcode, if_neg (by omega), hin, Bool.true_or], hcode⟩

/-- The codes of the table of numbers are those of numbers. -/
theorem isNumeric_ofNat {r : CodeRun} (hr : r ∈ numericTable.toList) (hn : r.Contains n) :
    isNumeric (Char.ofNat n) = true ∧ (Char.ofNat n).toNat = n ∧ 128 ≤ n := by
  obtain ⟨hcode, hbeyond⟩ :=
    CodeRun.toNat_ofNat_of_isValid (List.all_eq_true.1 numericTable_isValid r hr) hn
  have hin : inTable (Char.ofNat n) numericTable = true :=
    inTable_eq_true_iff.2 ⟨r, hr, hcode.symm ▸ hn⟩
  exact ⟨by rw [isNumeric, hcode, if_neg (by omega), hin], hcode, hbeyond⟩

/-- A character beyond ASCII that no run meets is no letter and no number. -/
theorem isAlphanumeric_eq_false_of_misses (hc : 128 ≤ c.toNat)
    (hletters : alphabeticTable.toList.all (CodeRun.misses c.toNat c.toNat) = true)
    (hnumbers : numericTable.toList.all (CodeRun.misses c.toNat c.toNat) = true) :
    isAlphanumeric c = false := by
  rw [isAlphanumeric, isAlphabetic, isNumeric, if_neg (by omega), if_neg (by omega),
    inTable_eq_false_of_misses hletters (Nat.le_refl _) (Nat.le_refl _),
    inTable_eq_false_of_misses hnumbers (Nat.le_refl _) (Nat.le_refl _), Bool.or_false]

theorem isDigit_eq_false_of_lt (h : 57 < c.toNat) : c.isDigit = false := by
  refine Bool.eq_false_iff.2 fun hdigit => ?_
  rw [Char.isDigit, Bool.and_eq_true, decide_eq_true_eq, decide_eq_true_eq] at hdigit
  have hle : c.val.toNat ≤ 57 := UInt32.le_iff_toNat_le.1 hdigit.2
  have hcode : c.toNat = c.val.toNat := rfl
  omega

/-- A code that no run of numbers meets, and that is no ASCII digit either, is that of no number. -/
theorem not_isNumeric_ofNat (h : numericTable.toList.all (CodeRun.misses low high) = true)
    (hdigits : 57 < low) (hlow : low ≤ n) (hhigh : n ≤ high) :
    isNumeric (Char.ofNat n) = false ∧ (Char.ofNat n).isDigit = false := by
  by_cases hn : n.isValidChar
  · have hcode := toNat_ofNat hn
    have hdigit := isDigit_eq_false_of_lt (c := Char.ofNat n) (by omega)
    refine ⟨?_, hdigit⟩
    unfold isNumeric
    split
    · exact hdigit
    · exact inTable_eq_false_of_misses h (by omega) (by omega)
  · rw [Char.ofNat, dif_neg hn]
    exact ⟨by decide, by decide⟩

theorem isAlphanumeric_of_isLetterCode (h : isLetterCode n = true) :
    isAlphanumeric (Char.ofNat n) = true ∧ (Char.ofNat n).toNat = n := by
  rw [isLetterCode, Bool.cond_eq_ite] at h
  split at h
  · rename_i hn
    rw [Nat.blt_eq] at hn
    have hcode : (Char.ofNat n).toNat = n := toNat_ofNat (Or.inl (by omega))
    exact ⟨by rw [isAlphanumeric, isAlphabetic, hcode, if_pos hn, h, Bool.true_or], hcode⟩
  · obtain ⟨r, hr, hn⟩ := List.any_eq_true.1 h
    exact isAlphanumeric_ofNat (mem_alphabeticTable hr) (CodeRun.contains_of_has hn)

/-! ## Partners -/

theorem ShiftedRun.mem_codes {s : ShiftedRun} (h : s.run.Contains n) : n ∈ s.codes := by
  obtain ⟨hfirst, hlast, hgrid⟩ := h
  refine List.mem_map.2 ⟨(n - s.run.first) / s.run.step, List.mem_range.2 ?_, ?_⟩
  · exact Nat.lt_succ_of_le (Nat.div_le_div_right (by omega))
  · rw [Nat.mul_div_cancel' (Nat.dvd_of_mod_eq_zero hgrid)]
    omega

section Shifted

variable {shifts : Array ShiftedRun}

/-- A character without a partner stays. -/
theorem shifted_eq (shifts : Array ShiftedRun) (c : Char) :
    shifted shifts c = c ∨ ∃ s ∈ shifts.toList, s.run.Contains c.toNat ∧
      shifted shifts c = Char.ofNat (s.partner c.toNat) := by
  unfold shifted
  cases hf : shifts.find? fun s => decide (s.run.Contains c.toNat) with
  | none => exact Or.inl rfl
  | some s =>
    have hcontains :=
      Array.find?_some (p := fun s : ShiftedRun => decide (s.run.Contains c.toNat)) hf
    exact Or.inr ⟨s, Array.mem_toList_iff.2 (Array.mem_of_find?_eq_some hf),
      of_decide_eq_true hcontains, rfl⟩

theorem shifted_eq_self
    (h : shifts.toList.all (fun s => s.run.misses c.toNat c.toNat) = true) :
    shifted shifts c = c := by
  rcases shifted_eq shifts c with heq | ⟨s, hs, hcontains, _⟩
  · exact heq
  · exact absurd hcontains
      (CodeRun.not_contains_of_misses (List.all_eq_true.1 h s hs) (Nat.le_refl _) (Nat.le_refl _))

theorem partner_mem_range {s : ShiftedRun} (h : s.run.Contains n) :
    s.partner s.run.first ≤ s.partner n ∧ s.partner n ≤ s.partner s.run.last := by
  obtain ⟨hfirst, hlast, _⟩ := h
  unfold ShiftedRun.partner
  omega

theorem isAlphanumeric_shifted (hshifts : shifts.toList.all ShiftedRun.reachesLetters = true)
    (hc : isAlphanumeric c = true) : isAlphanumeric (shifted shifts c) = true := by
  rcases shifted_eq shifts c with heq | ⟨s, hs, hcontains, heq⟩
  · rwa [heq]
  · have hletters := List.all_eq_true.1 hshifts s hs
    rw [ShiftedRun.reachesLetters, Bool.or_eq_true, List.all_eq_true] at hletters
    obtain ⟨hlow, hhigh⟩ := partner_mem_range hcontains
    rw [heq]
    rcases hletters with h | h
    · obtain ⟨r, hr, hspans⟩ := List.any_eq_true.1 h
      exact (isAlphanumeric_ofNat (mem_alphabeticTable hr)
        (CodeRun.contains_of_spans hspans hlow hhigh)).1
    · exact (isAlphanumeric_of_isLetterCode (h _ (ShiftedRun.mem_codes hcontains))).1

theorem isNumeric_shifted (hshifts : shifts.toList.all ShiftedRun.keepsNumbers = true)
    (hc : 128 ≤ c.toNat) :
    isNumeric (shifted shifts c) = isNumeric c ∧ (shifted shifts c).isDigit = false := by
  rcases shifted_eq shifts c with heq | ⟨s, hs, hcontains, heq⟩
  · exact heq.symm ▸ ⟨rfl, isDigit_eq_false_of_lt (by omega)⟩
  · have hnumbers := List.all_eq_true.1 hshifts s hs
    simp only [ShiftedRun.keepsNumbers, Bool.or_eq_true, Bool.and_eq_true, Nat.blt_eq] at hnumbers
    obtain ⟨hlow, hhigh⟩ := partner_mem_range hcontains
    obtain ⟨hfirst, hlast, _⟩ := hcontains
    rw [heq]
    rcases hnumbers with ⟨hrun, hpartners, hdigits⟩ | ⟨hrun, hpartners⟩
    · have hmisses := CodeRun.all_misses_of_clear numericTable_sorted hrun
      have hsource : isNumeric c = false := by
        rw [isNumeric, if_neg (by omega), inTable_eq_false_of_misses hmisses hfirst hlast]
      rw [hsource]
      exact not_isNumeric_ofNat (CodeRun.all_misses_of_clear numericTable_sorted hpartners) hdigits
        hlow hhigh
    · obtain ⟨r, hr, hspans⟩ := List.any_eq_true.1 hrun
      obtain ⟨r', hr', hspans'⟩ := List.any_eq_true.1 hpartners
      have hsource : isNumeric c = true := by
        rw [← Char.ofNat_toNat c]
        exact (isNumeric_ofNat hr (CodeRun.contains_of_spans hspans hfirst hlast)).1
      obtain ⟨hnumber, hcode, hbeyond⟩ :=
        isNumeric_ofNat hr' (CodeRun.contains_of_spans hspans' hlow hhigh)
      rw [hsource, hnumber]
      exact ⟨rfl, isDigit_eq_false_of_lt (by omega)⟩

end Shifted

/-! ## Small and capital forms -/

/-- **The small form of a letter or number** is a single letter or number, and a number or digit
exactly if the character is one. The capital `İ` is left out: its small form is followed by a
combining dot. -/
theorem lowerOf_spec (hc : isAlphanumeric c = true) (hdot : c ≠ 'İ') :
    ∃ c', lowerOf c = [c'] ∧ isAlphanumeric c' = true ∧ isNumeric c' = isNumeric c ∧
      c'.isDigit = c.isDigit := by
  unfold lowerOf
  split
  · rename_i hascii
    refine ⟨c.toLower, rfl, ?_⟩
    exact forall_ascii (P := fun c => isAlphanumeric c = true → isAlphanumeric c.toLower = true ∧
      isNumeric c.toLower = isNumeric c ∧ c.toLower.isDigit = c.isDigit) (by decide +kernel)
      hascii hc
  · rename_i hbeyond
    split
    · rename_i codes hlookup
      obtain ⟨_, _, hentries, _⟩ := List.lookup_eq_some_iff.1 hlookup
      have hentry : (c.toNat, codes) ∈ longLowers := by
        rw [hentries]
        exact List.mem_append_right _ (List.mem_cons_self ..)
      rw [longLowers, List.mem_singleton] at hentry
      exact absurd (Char.toNat_inj.1 (congrArg Prod.fst hentry)) hdot
    · refine ⟨shifted lowerShifts c, rfl, isAlphanumeric_shifted lowerShifts_reachLetters hc, ?_⟩
      rw [isDigit_eq_false_of_lt (c := c) (by omega)]
      exact isNumeric_shifted lowerShifts_keepNumbers (by omega)

/-- A form of a letter or number: it begins with a letter or number, and with the character itself
only if there is nothing else in it. -/
def Image (c : Char) (form : List Char) : Prop :=
  ∃ c' rest, form = c' :: rest ∧ isAlphanumeric c' = true ∧ (c' = c → rest = [])

theorem image_singleton {c' : Char} (h : isAlphanumeric c' = true) : Image c [c'] :=
  ⟨c', [], rfl, h, fun _ => rfl⟩

theorem image_lowerOf (hc : isAlphanumeric c = true) : Image c (lowerOf c) := by
  by_cases hdot : c = 'İ'
  · rw [hdot, lowerOf_dotted]
    exact ⟨'i', ['\u0307'], rfl, by decide, fun h => absurd h (by decide)⟩
  · obtain ⟨c', heq, hword, _⟩ := lowerOf_spec hc hdot
    exact heq ▸ image_singleton hword

theorem image_upperOf (hc : isAlphanumeric c = true) : Image c (upperOf c) := by
  unfold upperOf
  split
  · rename_i hascii
    exact image_singleton (forall_ascii (P := fun c => isAlphanumeric c = true →
      isAlphanumeric c.toUpper = true) (by decide +kernel) hascii hc)
  · split
    · rename_i codes hlookup
      obtain ⟨_, _, hentries, _⟩ := List.lookup_eq_some_iff.1 hlookup
      have hentry : beginsAnew (c.toNat, codes) = true := by
        refine List.all_eq_true.1 longUppers_beginAnew _ ?_
        rw [hentries]
        exact List.mem_append_right _ (List.mem_cons_self ..)
      cases codes with
      | nil => cases hentry
      | cons n codes =>
        rw [beginsAnew, Bool.and_eq_true, Bool.not_eq_true'] at hentry
        obtain ⟨hword, hcode⟩ := isAlphanumeric_of_isLetterCode hentry.1
        refine ⟨Char.ofNat n, codes.map Char.ofNat, rfl, hword, fun h => ?_⟩
        rw [← hcode, h, Nat.beq_refl] at hentry
        exact absurd hentry.2 (by decide)
    · exact image_singleton (isAlphanumeric_shifted upperShifts_reachLetters hc)

end TypedRequests.Text
