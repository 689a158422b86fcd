import Mathlib.Algebra.Group.Int.Defs
import Mathlib.Data.List.TakeWhile
import TypedRequests.Json.Printer
import TypedRequests.Json.Reader

/-!
# Reading scalars that were printed

The text of a scalar is a token that means this scalar, unless it is a number with a fraction or an
exponent: the reader may miss such a number by a bit.

* `JsonToken.Closed` : what may follow a number.
* `scanToken_append_of_number`, `scanToken_stringText` : a token is read alike whatever follows.
* `Scalar.Survives` : a scalar is read as it is printed.
* `survives_null`, `survives_bool`, `survives_string`, `survives_integer` : all but floating-point
  numbers are.
-/

set_option autoImplicit false

namespace TypedRequests

namespace JsonToken

variable {cs cs' rest : List Char}

/-! ## Numbers -/

/-- The text does not go on with a number. -/
def Closed (rest : List Char) : Prop :=
  ∀ c ∈ rest.head?, c.isDigit = false ∧ c ≠ '.' ∧ c ≠ 'e' ∧ c ≠ 'E'

theorem takeWhile_append {p : Char → Bool} (h : ∀ c ∈ rest.head?, p c = false) (cs : List Char) :
    (cs ++ rest).takeWhile p = cs.takeWhile p := by
  induction cs with
  | nil =>
    cases rest with
    | nil => rfl
    | cons c rest => exact List.takeWhile_cons_of_neg (by simp [h c rfl])
  | cons c cs ih => rw [List.cons_append, List.takeWhile_cons, List.takeWhile_cons, ih]

theorem dropWhile_append {p : Char → Bool} (h : ∀ c ∈ rest.head?, p c = false) (cs : List Char) :
    (cs ++ rest).dropWhile p = cs.dropWhile p ++ rest := by
  induction cs with
  | nil =>
    cases rest with
    | nil => rfl
    | cons c rest => exact List.dropWhile_cons_of_neg (by simp [h c rfl])
  | cons c cs ih =>
    rw [List.cons_append, List.dropWhile_cons, List.dropWhile_cons, ih]
    split <;> rfl

namespace Closed

theorem digitPrefix_append (h : Closed rest) (cs : List Char) :
    digitPrefix (cs ++ rest) = digitPrefix cs := by
  rw [digitPrefix, digitPrefix, takeWhile_append fun c hc => (h c hc).1]

theorem afterDigits_append (h : Closed rest) (cs : List Char) :
    afterDigits (cs ++ rest) = afterDigits cs ++ rest :=
  dropWhile_append (fun c hc => (h c hc).1) cs

theorem scanFraction_append (h : Closed rest) {f : Option (List Nat)}
    (hf : scanFraction cs = some (f, cs')) : scanFraction (cs ++ rest) = some (f, cs' ++ rest) := by
  unfold scanFraction at hf
  split at hf
  · rw [List.cons_append, scanFraction, h.digitPrefix_append, h.afterDigits_append]
    split at hf
    · cases hf
    · rename_i hdigits
      cases hf
      rw [if_neg hdigits]
  · rename_i hpoint
    cases hf
    unfold scanFraction
    split
    · rename_i ds hds
      cases cs with
      | nil => exact absurd rfl (h '.' (by rw [show rest = '.' :: ds from hds]; rfl)).2.1
      | cons c cs => exact absurd (congrArg (· :: cs) (List.cons.inj hds).1) (hpoint cs)
    · rfl

theorem scanExponentDigits_append (h : Closed rest) {negative : Bool} {e : Option Int}
    (he : scanExponentDigits negative cs = some (e, cs')) :
    scanExponentDigits negative (cs ++ rest) = some (e, cs' ++ rest) := by
  unfold scanExponentDigits at he ⊢
  rw [h.digitPrefix_append, h.afterDigits_append]
  split at he
  · cases he
  · rename_i hdigits
    cases he
    rw [if_neg hdigits]

theorem scanExponent_append (h : Closed rest) {e : Option Int}
    (he : scanExponent cs = some (e, cs')) : scanExponent (cs ++ rest) = some (e, cs' ++ rest) := by
  cases cs with
  | nil =>
    cases he
    cases rest with
    | nil => rfl
    | cons c rest =>
      obtain ⟨-, -, hlower, hupper⟩ := h c rfl
      exact if_neg (not_or.2 ⟨hlower, hupper⟩)
  | cons c cs =>
    unfold scanExponent at he ⊢
    simp only [List.cons_append] at he ⊢
    by_cases hc : c = 'e' ∨ c = 'E'
    · rw [if_pos hc] at he ⊢
      cases cs with
      | nil => cases he
      | cons d cs =>
        -- a sign is left before the digits, or it is one of them
        by_cases hplus : d = '+'
        · subst hplus
          exact h.scanExponentDigits_append he
        · by_cases hminus : d = '-'
          · subst hminus
            exact h.scanExponentDigits_append he
          · simp only [List.cons_append] at he ⊢
            split at he
            · rename_i heq
              exact absurd (List.cons.inj heq).1 hplus
            · rename_i heq
              exact absurd (List.cons.inj heq).1 hminus
            · split
              · rename_i heq
                exact absurd (List.cons.inj heq).1 hplus
              · rename_i heq
                exact absurd (List.cons.inj heq).1 hminus
              · exact h.scanExponentDigits_append he
    · rw [if_neg hc] at he ⊢
      cases he
      rfl

/-- **A number is read alike whatever follows**, if that does not go on with a number. -/
theorem scanNumber_append (h : Closed rest) {negative : Bool} {t : JsonToken}
    (ht : scanNumber negative cs = some (t, cs')) :
    scanNumber negative (cs ++ rest) = some (t, cs' ++ rest) := by
  unfold scanNumber at ht ⊢
  rw [h.digitPrefix_append, h.afterDigits_append]
  simp only at ht ⊢
  split at ht
  · cases ht
  · rename_i hwhole
    rw [if_neg hwhole]
    cases hfraction : scanFraction (afterDigits cs) with
    | none => simp [hfraction] at ht
    | some f =>
      obtain ⟨f, ds⟩ := f
      rw [h.scanFraction_append hfraction]
      simp only [hfraction] at ht ⊢
      cases hexponent : scanExponent ds with
      | none => simp [hexponent] at ht
      | some e =>
        obtain ⟨e, es⟩ := e
        rw [h.scanExponent_append hexponent]
        simp only [hexponent] at ht ⊢
        cases ht
        rfl

end Closed

/-! ## Tokens -/

theorem ne_of_isDigit {c d : Char} (hc : c.isDigit = true) (hd : d.isDigit = false) : c ≠ d := by
  rintro rfl
  rw [hc] at hd
  cases hd

theorem scanToken_of_isDigit {c : Char} (hc : c.isDigit = true) (cs : List Char) :
    scanToken (c :: cs) = scanNumber false (c :: cs) := by
  have hne : ∀ d : Char, d.isDigit = false → c ≠ d := fun d => ne_of_isDigit hc
  unfold scanToken
  split
  case h_12 => rfl
  all_goals
    rename_i heq
    exact absurd (List.cons.inj heq).1 (hne _ (by decide))

theorem isDigit_of_scanNumber {negative : Bool} {t : JsonToken}
    (h : scanNumber negative cs = some (t, rest)) :
    ∃ c cs', cs = c :: cs' ∧ c.isDigit = true := by
  cases cs with
  | nil => cases h
  | cons c cs =>
    refine ⟨c, cs, rfl, Decidable.byContradiction fun hc => ?_⟩
    have hempty : digitPrefix (c :: cs) = [] := by
      rw [digitPrefix, List.takeWhile_cons_of_neg hc, List.map_nil]
    simp [scanNumber, hempty] at h

/-- The token is a number. -/
def IsNumber (t : JsonToken) : Prop :=
  ∃ l, t = .integer l ∨ t = .decimal l

/-- A token that is a number is read alike whatever follows. -/
theorem scanToken_append_of_number {t : JsonToken} (ht : IsNumber t)
    (h : scanToken cs = some (t, cs')) (hrest : Closed rest) :
    scanToken (cs ++ rest) = some (t, cs' ++ rest) := by
  unfold scanToken at h
  split at h
  case h_10 =>
    split at h
    · cases h
      obtain ⟨l, h | h⟩ := ht <;> cases h
    · cases h
  case h_11 cs => exact hrest.scanNumber_append h
  case h_12 cs =>
    obtain ⟨c, cs, rfl, hc⟩ := isDigit_of_scanNumber h
    rw [List.cons_append, scanToken_of_isDigit hc]
    exact hrest.scanNumber_append h
  all_goals
    cases h
    obtain ⟨l, h | h⟩ := ht <;> cases h

/-- A text that begins with a token does not begin with white space. -/
theorem scan_of_scanToken {t : JsonToken} (h : scanToken cs = some (t, rest)) :
    scan cs = (scan rest).map (t :: ·) := by
  cases cs with
  | nil => cases h
  | cons c cs =>
    have hc : isSpace c = false := by
      refine Bool.eq_false_iff.2 fun hc => ?_
      have hspace : c = ' ' ∨ c = '\n' ∨ c = '\t' ∨ c = '\r' := by
        simpa [isSpace, or_assoc] using hc
      rcases hspace with rfl | rfl | rfl | rfl <;> cases h
    rw [scan, if_neg (by simp [hc])]
    split
    · rename_i t' rest' h'
      obtain ⟨rfl, rfl⟩ := Prod.mk.inj (Option.some.inj (h'.symm.trans h))
      rfl
    · rename_i h'
      rw [h] at h'
      cases h'

theorem scan_spaces {spaces : List Char} (h : ∀ c ∈ spaces, isSpace c = true) (cs : List Char) :
    scan (spaces ++ cs) = scan cs := by
  induction spaces with
  | nil => rfl
  | cons c spaces ih =>
    obtain ⟨hc, hspaces⟩ := List.forall_mem_cons.1 h
    rw [List.cons_append, scan, if_pos hc, ih hspaces]

/-! ## Strings -/

/-- A control character is no half of another one. -/
theorem joinParts_unit {n : Nat} (hn : n < 32) (parts : List StringPart) :
    joinParts (.unit n :: parts) = (joinParts parts).map (Char.ofNat n :: ·) := by
  have hhigh : isHighHalf n = false := by
    simp [isHighHalf]
    omega
  have hlow : isLowHalf n = false := by
    simp [isLowHalf]
    omega
  cases parts with
  | nil => simp [joinParts, hhigh, hlow]
  | cons part parts =>
    cases part with
    | char c => simp [joinParts, hhigh, hlow]
    | unit m => simp [joinParts, hhigh, hlow]

theorem hexValue?_hexDigit : ∀ n < 16, hexValue? (Scalar.hexDigit n) = some n := by
  decide

/-- **A character that is printed in a string is read again.** -/
theorem scanString_stringChar (c : Char) {parts : List StringPart}
    (h : scanString cs = some (parts, rest)) :
    ∃ part, scanString (Scalar.stringChar c ++ cs) = some (part :: parts, rest) ∧
      joinParts (part :: parts) = (joinParts parts).map (c :: ·) := by
  unfold Scalar.stringChar
  split
  case h_6 hquote hslash hline hreturn htab =>
    split
    · rename_i hc
      obtain rfl : c = '\x08' := Char.toNat_inj.1 hc
      exact ⟨.char '\x08', by simp [scanString, escape?, h], rfl⟩
    · split
      · rename_i hc
        obtain rfl : c = '\x0c' := Char.toNat_inj.1 hc
        exact ⟨.char '\x0c', by simp [scanString, escape?, h], rfl⟩
      · split
        · rename_i hc
          refine ⟨.unit c.toNat, ?_, ?_⟩
          · have hunit : hexUnit? '0' '0' (Scalar.hexDigit (c.toNat / 16))
                (Scalar.hexDigit (c.toNat % 16)) = some c.toNat := by
              have h₀ : hexValue? '0' = some 0 := by decide
              rw [hexUnit?, h₀, hexValue?_hexDigit _ (by omega), hexValue?_hexDigit _ (by omega)]
              simp only
              congr 1
              omega
            simp only [List.cons_append, List.nil_append]
            rw [scanString, hunit, h]
          · rw [joinParts_unit hc, Char.ofNat_toNat]
        · rename_i hcontrol
          refine ⟨.char c, ?_, rfl⟩
          rw [List.singleton_append, scanString]
          · rw [if_neg (not_or.2 ⟨hcontrol, hslash⟩), h]
          · exact hquote
          · exact fun _ _ _ _ _ hc _ => hslash hc
          · exact fun _ _ hc _ => hslash hc
  all_goals exact ⟨.char _, by simp [scanString, escape?, h], rfl⟩

theorem scanString_stringChars (cs rest : List Char) :
    ∃ parts, scanString (cs.flatMap Scalar.stringChar ++ '"' :: rest) = some (parts, rest) ∧
      joinParts parts = some cs := by
  induction cs with
  | nil => exact ⟨[], by rw [List.flatMap_nil, List.nil_append, scanString], rfl⟩
  | cons c cs ih =>
    obtain ⟨parts, hscan, hjoin⟩ := ih
    obtain ⟨part, hscan, hpart⟩ := scanString_stringChar c hscan
    refine ⟨part :: parts, ?_, by rw [hpart, hjoin]; rfl⟩
    rw [List.flatMap_cons, List.append_assoc, hscan]

/-- **A printed string is read again.** -/
theorem scanToken_stringText (s : String) (rest : List Char) :
    scanToken (Scalar.stringText s ++ rest) = some (.string (some s), rest) := by
  obtain ⟨parts, hscan, hjoin⟩ := scanString_stringChars s.toList rest
  have htext : Scalar.stringText s ++ rest =
      '"' :: (s.toList.flatMap Scalar.stringChar ++ '"' :: rest) := by
    simp [Scalar.stringText]
  rw [htext, scanToken, hscan]
  simp only [hjoin, Option.map_some, String.ofList_toList]

end JsonToken

/-! ## Scalars -/

namespace Scalar

open JsonToken

/-- What is read of the text of a scalar, if that is a single token. -/
def reread? (s : Scalar) : Option Leaf :=
  match scanToken s.text with
  | some (t, []) => JsonReader.leaf? t
  | _ => none

/-- The scalar is read as it is printed. -/
def Survives (s : Scalar) : Prop :=
  s.reread? = some (.ofScalar s)

instance (s : Scalar) : Decidable s.Survives :=
  inferInstanceAs (Decidable (s.reread? = some (.ofScalar s)))

theorem survives_iff {s : Scalar} : s.Survives ↔
    ∃ t, scanToken s.text = some (t, []) ∧ JsonReader.leaf? t = some (.ofScalar s) := by
  unfold Survives reread?
  constructor
  · intro h
    split at h
    · rename_i t ht
      exact ⟨t, ht, h⟩
    · cases h
  · rintro ⟨t, ht, h⟩
    rw [ht]
    exact h

theorem survives_null : Survives null := by decide

theorem survives_bool (b : Bool) : Survives (bool b) := by cases b <;> decide

theorem scanToken_string (s : String) :
    scanToken (text (string s)) = some (.string (some s), []) := by
  have hstring := scanToken_stringText s []
  rwa [List.append_nil] at hstring

theorem survives_string (s : String) : Survives (string s) :=
  survives_iff.2 ⟨.string (some s), scanToken_string s, rfl⟩

/-! ### Integers -/

theorem digitValue_digitChar {d : Nat} (h : d < 10) : digitValue d.digitChar = d :=
  Nat.toNat_digitChar_sub_48_of_lt_ten h

theorem map_digitValue_toDigits (n : Nat) :
    (Nat.toDigits 10 n).map digitValue =
      if n < 10 then [n] else (Nat.toDigits 10 (n / 10)).map digitValue ++ [n % 10] := by
  rw [Nat.toDigits_eq_if (by decide)]
  split
  · rw [List.map_singleton, digitValue_digitChar ‹_›]
  · rw [List.map_append, List.map_singleton, digitValue_digitChar (Nat.mod_lt n (by decide))]

/-- The digits of a number have its value. -/
theorem valueOfDigits_toDigits (n : Nat) :
    valueOfDigits 10 ((Nat.toDigits 10 n).map digitValue) = n := by
  induction n using Nat.strongRecOn with
  | _ n ih =>
    rw [map_digitValue_toDigits]
    split
    · simp [valueOfDigits]
    · have hfront := ih (n / 10) (by omega)
      unfold valueOfDigits at hfront ⊢
      rw [List.foldl_append, hfront, List.foldl_cons, List.foldl_nil]
      omega

/-- Only zero begins with the digit zero. -/
theorem head?_toDigits {n : Nat} (hn : n ≠ 0) :
    ((Nat.toDigits 10 n).map digitValue).head? ≠ some 0 := by
  induction n using Nat.strongRecOn with
  | _ n ih =>
    rw [map_digitValue_toDigits]
    split
    · simpa using hn
    · have hfront := ih (n / 10) (by omega) (by omega)
      cases hdigits : (Nat.toDigits 10 (n / 10)).map digitValue with
      | nil => exact absurd (List.map_eq_nil_iff.1 hdigits) Nat.toDigits_ne_nil
      | cons d ds =>
        rw [hdigits] at hfront
        exact hfront

theorem scanNumber_toDigits (negative : Bool) (n : Nat) :
    scanNumber negative (Nat.toDigits 10 n) =
      some (.integer ⟨negative, (Nat.toDigits 10 n).map digitValue, [], 0⟩, []) := by
  have hdigits : ∀ c ∈ Nat.toDigits 10 n, c.isDigit = true :=
    fun c hc => Nat.isDigit_of_mem_toDigits (by decide) (by decide) hc
  have hfront : digitPrefix (Nat.toDigits 10 n) = (Nat.toDigits 10 n).map digitValue := by
    rw [digitPrefix, List.takeWhile_eq_self_iff.2 hdigits]
  have hafter : afterDigits (Nat.toDigits 10 n) = [] := List.dropWhile_eq_nil_iff.2 hdigits
  have hzero : ¬ ((Nat.toDigits 10 n).map digitValue = [] ∨
      ((Nat.toDigits 10 n).map digitValue).head? = some 0 ∧
        (Nat.toDigits 10 n).map digitValue ≠ [0]) := by
    rintro (hempty | ⟨hhead, hne⟩)
    · exact Nat.toDigits_ne_nil (List.map_eq_nil_iff.1 hempty)
    · by_cases hn : n = 0
      · subst hn
        exact hne rfl
      · exact head?_toDigits hn hhead
  unfold scanNumber
  rw [hfront, hafter, if_neg hzero]
  rfl

theorem scanToken_toDigits (n : Nat) : scanToken (Nat.toDigits 10 n) =
    some (.integer ⟨false, (Nat.toDigits 10 n).map digitValue, [], 0⟩, []) := by
  rw [← scanNumber_toDigits]
  cases hdigits : Nat.toDigits 10 n with
  | nil => exact absurd hdigits Nat.toDigits_ne_nil
  | cons c cs =>
    have hc : c ∈ Nat.toDigits 10 n := by
      rw [hdigits]
      exact List.mem_cons_self ..
    exact scanToken_of_isDigit (Nat.isDigit_of_mem_toDigits (by decide) (by decide) hc) cs

theorem fitsSigned_iff {n : Int} : fitsSigned 64 n = true ↔ -2 ^ 63 ≤ n ∧ n < 2 ^ 63 := by
  have hbound : (bitPatterns (64 - 1) : Int) = 2 ^ 63 := rfl
  rw [fitsSigned, Bool.and_eq_true, decide_eq_true_eq, decide_eq_true_eq, hbound]

theorem fitsUnsigned_iff {n : Int} : fitsUnsigned 64 n = true ↔ 0 ≤ n ∧ n < 2 ^ 64 := by
  have hbound : (bitPatterns 64 : Int) = 2 ^ 64 := rfl
  rw [fitsUnsigned, Bool.and_eq_true, decide_eq_true_eq, decide_eq_true_eq, hbound]

theorem integerScalar_of_neg {n : Nat} (hn : n ≠ 0) (h : fitsSigned 64 (-n) = true) :
    JsonReader.integerScalar ⟨true, (Nat.toDigits 10 n).map digitValue, [], 0⟩ =
      some (.integer (-n)) := by
  simp only [JsonReader.integerScalar, valueOfDigits_toDigits]
  rw [if_pos trivial, if_neg hn, if_pos h]

theorem integerScalar_of_nonneg {n : Nat} (h : n < DecimalLiteral.wordBound) :
    JsonReader.integerScalar ⟨false, (Nat.toDigits 10 n).map digitValue, [], 0⟩ =
      some (.integer n) := by
  simp only [JsonReader.integerScalar, valueOfDigits_toDigits]
  rw [if_neg Bool.false_ne_true, if_pos h]

/-- **An integer of 64 bits survives.** -/
theorem survives_integer {n : Int} (h : fitsSigned 64 n = true ∨ fitsUnsigned 64 n = true) :
    Survives (integer n) := by
  rw [fitsSigned_iff, fitsUnsigned_iff] at h
  by_cases hn : n < 0
  · have hvalue : n = -(n.natAbs : Int) := by omega
    have hfits : fitsSigned 64 (-(n.natAbs : Int)) = true := fitsSigned_iff.2 (by omega)
    refine survives_iff.2
      ⟨.integer ⟨true, (Nat.toDigits 10 n.natAbs).map digitValue, [], 0⟩, ?_, ?_⟩
    · rw [text, integerText, if_pos hn]
      exact scanNumber_toDigits true n.natAbs
    · rw [JsonReader.leaf?, integerScalar_of_neg (by omega) hfits, ← hvalue]
      rfl
  · have hvalue : n = (n.natAbs : Int) := by omega
    have hfits : n.natAbs < DecimalLiteral.wordBound := by
      have hbound : DecimalLiteral.wordBound = 2 ^ 64 := rfl
      omega
    refine survives_iff.2
      ⟨.integer ⟨false, (Nat.toDigits 10 n.natAbs).map digitValue, [], 0⟩, ?_, ?_⟩
    · rw [text, integerText, if_neg hn]
      exact scanToken_toDigits n.natAbs
    · rw [JsonReader.leaf?, integerScalar_of_nonneg hfits, ← hvalue]
      rfl

theorem isNumber_of_leaf? {t : JsonToken} {s : Scalar} (h : JsonReader.leaf? t = some ⟨none, some s⟩)
    (hnull : s ≠ null) (hbool : ∀ b, s ≠ bool b) : IsNumber t := by
  cases t with
  | integer l => exact ⟨l, .inl rfl⟩
  | decimal l => exact ⟨l, .inr rfl⟩
  | null => exact absurd (Option.some.inj (congrArg Leaf.value (Option.some.inj h))).symm hnull
  | bool b =>
    exact absurd (Option.some.inj (congrArg Leaf.value (Option.some.inj h))).symm (hbool b)
  | string s => cases s <;> cases h
  | _ => cases h

/-- The first token of the text. -/
def token (s : Scalar) : JsonToken :=
  match scanToken s.text with
  | some (t, _) => t
  | none => .null

/-- **The text of a scalar is read alike whatever follows**, if that does not go on with a
number. -/
theorem Survives.scanToken_append {s : Scalar} (h : s.Survives) :
    JsonReader.leaf? s.token = some (.ofScalar s) ∧
      ∀ rest, Closed rest → scanToken (s.text ++ rest) = some (s.token, rest) := by
  obtain ⟨t, ht, hleaf⟩ := survives_iff.1 h
  have htoken : s.token = t := by rw [token, ht]
  rw [htoken]
  refine ⟨hleaf, fun rest hrest => ?_⟩
  cases s with
  | null =>
    cases ht
    rfl
  | bool b => cases b <;> cases ht <;> rfl
  | string s =>
    obtain rfl := (Prod.mk.inj (Option.some.inj ((scanToken_string s).symm.trans ht))).1
    exact scanToken_stringText s rest
  | integer n => exact scanToken_append_of_number (isNumber_of_leaf? hleaf nofun nofun) ht hrest
  | real x => exact scanToken_append_of_number (isNumber_of_leaf? hleaf nofun nofun) ht hrest

end Scalar

end TypedRequests
