import TypedRequests.Number.Decimal

/-!
# Tokens of JSON text

* `JsonToken` : brackets, punctuation and scalars.
* `JsonToken.scan` : the tokens of a text, if it consists of tokens and white space.

An escape may name half a character; the string is then a token, but not a readable one.
-/

set_option autoImplicit false

namespace TypedRequests

/-- A token of JSON text. -/
inductive JsonToken where
  | openList
  | closeList
  | openRecord
  | closeRecord
  | colon
  | comma
  | null
  | bool (b : Bool)
  /-- A number without point and exponent. -/
  | integer (d : DecimalLiteral)
  | decimal (d : DecimalLiteral)
  /-- A string, unless it holds half a character. -/
  | string (s : Option String)
deriving DecidableEq, Repr

namespace JsonToken

/-! ## Strings -/

/-- A part of a string: a character, or a unit of 16 bits written as an escape. -/
inductive StringPart where
  | char (c : Char)
  | unit (n : Nat)
deriving DecidableEq, Repr

/-- The number of four hexadecimal digits. -/
def hexUnit? (a b c d : Char) : Option Nat :=
  match hexValue? a, hexValue? b, hexValue? c, hexValue? d with
  | some a, some b, some c, some d => some (((a * 16 + b) * 16 + c) * 16 + d)
  | _, _, _, _ => none

/-- The character of an escape with one letter. -/
def escape? : Char → Option Char
  | '"' => some '"'
  | '\\' => some '\\'
  | '/' => some '/'
  | 'b' => some '\x08'
  | 'f' => some '\x0c'
  | 'n' => some '\n'
  | 'r' => some '\r'
  | 't' => some '\t'
  | _ => none

/-- The parts of a string up to its closing quote, and what follows. -/
def scanString : List Char → Option (List StringPart × List Char)
  | [] => none
  | '"' :: rest => some ([], rest)
  | '\\' :: 'u' :: a :: b :: c :: d :: rest =>
    match hexUnit? a b c d, scanString rest with
    | some n, some (parts, rest) => some (.unit n :: parts, rest)
    | _, _ => none
  | '\\' :: e :: rest =>
    match escape? e, scanString rest with
    | some c, some (parts, rest) => some (.char c :: parts, rest)
    | _, _ => none
  | c :: rest =>
    if c.toNat < 32 ∨ c = '\\' then none
    else
      match scanString rest with
      | some (parts, rest) => some (.char c :: parts, rest)
      | none => none

/-- The unit is the first half of a character. -/
def isHighHalf (n : Nat) : Bool :=
  0xD800 ≤ n && n ≤ 0xDBFF

/-- The unit is the second half of a character. -/
def isLowHalf (n : Nat) : Bool :=
  0xDC00 ≤ n && n ≤ 0xDFFF

/-- The characters of the parts of a string, if no half is alone. -/
def joinParts : List StringPart → Option (List Char)
  | [] => some []
  | .char c :: parts => (joinParts parts).map (c :: ·)
  | .unit high :: .unit low :: parts =>
    if isHighHalf high then
      if isLowHalf low then
        (joinParts parts).map
          (Char.ofNat (0x10000 + (high - 0xD800) * 0x400 + (low - 0xDC00)) :: ·)
      else none
    else if isLowHalf high then none
    else (joinParts (.unit low :: parts)).map (Char.ofNat high :: ·)
  | .unit n :: parts =>
    if isHighHalf n || isLowHalf n then none
    else (joinParts parts).map (Char.ofNat n :: ·)

theorem length_scanString {cs rest : List Char} {parts : List StringPart}
    (h : scanString cs = some (parts, rest)) : rest.length < cs.length := by
  fun_induction scanString cs generalizing parts rest <;> simp_all <;> omega

/-! ## Numbers -/

/-- The longest prefix of decimal digits, as numbers. -/
def digitPrefix (cs : List Char) : List Nat :=
  (cs.takeWhile Char.isDigit).map digitValue

/-- What follows the decimal digits. -/
def afterDigits (cs : List Char) : List Char :=
  cs.dropWhile Char.isDigit

theorem length_afterDigits (cs : List Char) : (afterDigits cs).length ≤ cs.length :=
  (List.dropWhile_suffix _).length_le

/-- The digits after a point, if there is a point, and what follows. -/
def scanFraction : List Char → Option (Option (List Nat) × List Char)
  | '.' :: cs => if digitPrefix cs = [] then none else some (some (digitPrefix cs), afterDigits cs)
  | cs => some (none, cs)

/-- The digits of an exponent and what follows. -/
def scanExponentDigits (negative : Bool) (cs : List Char) : Option (Option Int × List Char) :=
  if digitPrefix cs = [] then none
  else
    let n : Int := valueOfDigits 10 (digitPrefix cs)
    some (some (if negative then -n else n), afterDigits cs)

/-- The exponent, if there is one, and what follows. -/
def scanExponent : List Char → Option (Option Int × List Char)
  | [] => some (none, [])
  | e :: cs =>
    if e = 'e' ∨ e = 'E' then
      match cs with
      | '+' :: cs => scanExponentDigits false cs
      | '-' :: cs => scanExponentDigits true cs
      | cs => scanExponentDigits false cs
    else some (none, e :: cs)

/-- A number after its sign: the digits before the point begin with zero only if they are zero. -/
def scanNumber (negative : Bool) (cs : List Char) : Option (JsonToken × List Char) :=
  let whole := digitPrefix cs
  if whole = [] ∨ (whole.head? = some 0 ∧ whole ≠ [0]) then none
  else
    match scanFraction (afterDigits cs) with
    | none => none
    | some (fraction, cs) =>
      match scanExponent cs with
      | none => none
      | some (exponent, cs) =>
        let literal := ⟨negative, whole, fraction.getD [], exponent.getD 0⟩
        some (if fraction.isNone && exponent.isNone then .integer literal else .decimal literal, cs)

theorem length_scanFraction {cs rest : List Char} {f : Option (List Nat)}
    (h : scanFraction cs = some (f, rest)) : rest.length ≤ cs.length := by
  unfold scanFraction at h
  split at h
  · split at h
    · simp at h
    · simp only [Option.some.injEq, Prod.mk.injEq] at h
      rw [← h.2]
      exact Nat.le_succ_of_le (length_afterDigits _)
  · simp only [Option.some.injEq, Prod.mk.injEq] at h
    exact h.2 ▸ Nat.le_refl _

theorem length_scanExponentDigits {b : Bool} {cs rest : List Char} {e : Option Int}
    (h : scanExponentDigits b cs = some (e, rest)) : rest.length ≤ cs.length := by
  unfold scanExponentDigits at h
  split at h
  · simp at h
  · simp only [Option.some.injEq, Prod.mk.injEq] at h
    rw [← h.2]
    exact length_afterDigits cs

theorem length_scanExponent {cs rest : List Char} {e : Option Int}
    (h : scanExponent cs = some (e, rest)) : rest.length ≤ cs.length := by
  unfold scanExponent at h
  split at h
  · simp only [Option.some.injEq, Prod.mk.injEq] at h
    exact h.2 ▸ Nat.le_refl _
  · split at h
    · split at h <;> have := length_scanExponentDigits h <;> simp only [List.length_cons] <;> omega
    · simp only [Option.some.injEq, Prod.mk.injEq] at h
      exact h.2 ▸ Nat.le_refl _

theorem length_afterDigits_lt {cs : List Char} (h : digitPrefix cs ≠ []) :
    (afterDigits cs).length < cs.length := by
  cases cs with
  | nil => simp [digitPrefix] at h
  | cons c cs =>
    by_cases hc : c.isDigit
    · have := length_afterDigits cs
      simp only [afterDigits, List.dropWhile_cons, hc, if_true, List.length_cons] at this ⊢
      omega
    · simp [digitPrefix, hc] at h

theorem length_scanNumber {b : Bool} {cs rest : List Char} {t : JsonToken}
    (h : scanNumber b cs = some (t, rest)) : rest.length < cs.length := by
  simp only [scanNumber] at h
  split at h
  · simp at h
  · rename_i hw
    have hw' : digitPrefix cs ≠ [] := fun e => hw (Or.inl e)
    have h₀ := length_afterDigits_lt hw'
    split at h
    · simp at h
    · rename_i f cs₁ h₁
      have k₁ := length_scanFraction h₁
      split at h
      · simp at h
      · rename_i e cs₂ h₂
        have k₂ := length_scanExponent h₂
        simp only [Option.some.injEq, Prod.mk.injEq] at h
        rw [← h.2]
        omega

/-! ## Texts -/

/-- The characters between tokens. -/
def isSpace (c : Char) : Bool :=
  c == ' ' || c == '\n' || c == '\t' || c == '\r'

/-- The first token of a text that begins with it, and what follows. -/
def scanToken : List Char → Option (JsonToken × List Char)
  | '[' :: cs => some (.openList, cs)
  | ']' :: cs => some (.closeList, cs)
  | '\x7b' :: cs => some (.openRecord, cs)
  | '\x7d' :: cs => some (.closeRecord, cs)
  | ':' :: cs => some (.colon, cs)
  | ',' :: cs => some (.comma, cs)
  | 'n' :: 'u' :: 'l' :: 'l' :: cs => some (.null, cs)
  | 't' :: 'r' :: 'u' :: 'e' :: cs => some (.bool true, cs)
  | 'f' :: 'a' :: 'l' :: 's' :: 'e' :: cs => some (.bool false, cs)
  | '"' :: cs =>
    match scanString cs with
    | some (parts, rest) => some (.string ((joinParts parts).map String.ofList), rest)
    | none => none
  | '-' :: cs => scanNumber true cs
  | cs => scanNumber false cs

theorem length_scanToken {cs rest : List Char} {t : JsonToken}
    (h : scanToken cs = some (t, rest)) : rest.length < cs.length := by
  unfold scanToken at h
  split at h
  case h_10 cs =>
    split at h
    · rename_i parts rest' hs
      have := length_scanString hs
      simp only [Option.some.injEq, Prod.mk.injEq] at h
      rw [← h.2]
      simp only [List.length_cons]
      omega
    · simp at h
  case h_11 cs =>
    have := length_scanNumber h
    simp only [List.length_cons]
    omega
  case h_12 cs => exact length_scanNumber h
  all_goals
    simp only [Option.some.injEq, Prod.mk.injEq] at h
    rw [← h.2]
    simp only [List.length_cons]
    omega

/-- The tokens of a text. -/
def scan (cs : List Char) : Option (List JsonToken) :=
  match cs with
  | [] => some []
  | c :: cs' =>
    if isSpace c then scan cs'
    else
      match _h : scanToken (c :: cs') with
      | some (t, rest) => (scan rest).map (t :: ·)
      | none => none
termination_by cs.length
decreasing_by
  · simp
  · exact length_scanToken _h

end JsonToken

end TypedRequests
