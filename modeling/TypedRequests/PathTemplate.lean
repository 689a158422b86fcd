/-!
# Path templates

A path such as `/pets/{id}` holds placeholders in braces. A placeholder begins at a `{` and ends at
the first `}` after it; braces without partner are ordinary text.

* `PathTemplate.ofPath` : the path cut at its placeholders.
* `PathTemplate.ofChars_eq` : it is cut at its first placeholder and then again behind it.
* `PathTemplate.placeholders` : the names, in order.
* `PathTemplate.urlTemplate` : the path as a template literal with an expression for each
  placeholder.
* `PathTemplate.namesIn`, `PathTemplate.literalOf` : the same names and literal by a scan of the path
  each; `namesIn_eq`, `literalOf_eq` : the scans see the same placeholders.
-/

set_option autoImplicit false

namespace TypedRequests

/-- A path cut at its placeholders: each literal text with the name of the placeholder after it,
and the text behind the last placeholder. -/
structure PathTemplate where
  segments : List (List Char × List Char)
  last : List Char
deriving DecidableEq, Repr

namespace PathTemplate

/-- The characters of a path cut at its placeholders. `before` holds, backwards, the text since the
last placeholder, and the option what was read since a brace was opened. -/
def cut (before : List Char) : Option (List Char) → List Char → PathTemplate
  | none, [] => ⟨[], before.reverse⟩
  | some name, [] => ⟨[], before.reverse ++ '\x7b' :: name.reverse⟩
  | none, c :: cs => if c = '\x7b' then cut before (some []) cs else cut (c :: before) none cs
  | some name, c :: cs =>
    if c = '\x7d' then
      let tail := cut [] none cs
      ⟨(before.reverse, name.reverse) :: tail.segments, tail.last⟩
    else cut before (some (c :: name)) cs

/-- The characters of a path cut at its placeholders. -/
def ofChars (cs : List Char) : PathTemplate :=
  cut [] none cs

/-! ## Cutting step by step -/

/-- The text before the first placeholder, its name, and what follows it. -/
def cutFirst (cs : List Char) : Option (List Char × List Char × List Char) :=
  match cs.dropWhile (· ≠ '\x7b') with
  | [] => none
  | _ :: inner =>
    match inner.dropWhile (· ≠ '\x7d') with
    | [] => none
    | _ :: rest => some (cs.takeWhile (· ≠ '\x7b'), inner.takeWhile (· ≠ '\x7d'), rest)

theorem cut_none (before cs : List Char) :
    cut before none cs = match cs.dropWhile (· ≠ '\x7b') with
      | [] => ⟨[], before.reverse ++ cs⟩
      | _ :: inner => cut ((cs.takeWhile (· ≠ '\x7b')).reverse ++ before) (some []) inner := by
  induction cs generalizing before with
  | nil => simp [cut]
  | cons c cs ih =>
    rw [cut]
    by_cases h : c = '\x7b'
    · simp [h]
    · rw [if_neg h, ih, List.dropWhile_cons_of_pos (by simp [h]),
        List.takeWhile_cons_of_pos (by simp [h])]
      simp

theorem cut_some (before name cs : List Char) :
    cut before (some name) cs = match cs.dropWhile (· ≠ '\x7d') with
      | [] => ⟨[], before.reverse ++ '\x7b' :: (name.reverse ++ cs)⟩
      | _ :: rest =>
        ⟨(before.reverse, name.reverse ++ cs.takeWhile (· ≠ '\x7d')) :: (ofChars rest).segments,
          (ofChars rest).last⟩ := by
  induction cs generalizing name with
  | nil => simp [cut]
  | cons c cs ih =>
    rw [cut]
    by_cases h : c = '\x7d'
    · simp [h, ofChars]
    · rw [if_neg h, ih, List.dropWhile_cons_of_pos (by simp [h]),
        List.takeWhile_cons_of_pos (by simp [h])]
      simp

/-- **A path is cut at its first placeholder and then again behind it.** -/
theorem ofChars_eq (cs : List Char) :
    ofChars cs = match cutFirst cs with
      | none => ⟨[], cs⟩
      | some (before, name, rest) =>
        ⟨(before, name) :: (ofChars rest).segments, (ofChars rest).last⟩ := by
  rw [ofChars, cut_none, cutFirst]
  have hcs := List.takeWhile_append_dropWhile (p := (· ≠ '\x7b')) (l := cs)
  have hhead := List.head?_dropWhile_not (p := (· ≠ '\x7b')) cs
  split
  · rfl
  · rename_i brace inner hopen
    rw [hopen] at hcs hhead
    have hbrace : brace = '\x7b' := by simpa using hhead
    rw [cut_some]
    cases inner.dropWhile (· ≠ '\x7d') with
    | nil => simpa [hbrace] using hcs
    | cons _ rest => simp

/-! ## Placeholders -/

/-- A path cut at its placeholders. -/
def ofPath (path : String) : PathTemplate :=
  ofChars path.toList

/-- The names of the placeholders, in order. -/
def placeholders (t : PathTemplate) : List String :=
  t.segments.map fun s => String.ofList s.2

/-! ## Template literals -/

/-- The backtick, which delimits a template literal. -/
def backtick : Char := '\x60'

/-- Literal text inside a template literal. -/
def escapedText (cs : List Char) : List Char :=
  cs.flatMap fun c => if c = '\\' ∨ c = backtick then ['\\', c] else [c]

/-- A placeholder's expression inside a template literal. -/
def substitution (expression : String) : List Char :=
  '$' :: '\x7b' :: expression.toList ++ ['\x7d']

/-- The path as a template literal, where `expression` says what stands for a placeholder. -/
def urlTemplate (t : PathTemplate) (expression : String → String) : String :=
  String.ofList (
    backtick :: t.segments.flatMap (fun s =>
      escapedText s.1 ++ substitution (expression (String.ofList s.2)))
    ++ escapedText t.last ++ [backtick])

/-! ## Scans -/

theorem length_lt_of_dropWhile {p : Char → Bool} {cs rest : List Char} {c : Char}
    (h : cs.dropWhile p = c :: rest) : rest.length < cs.length := by
  have hle := (List.dropWhile_sublist p (l := cs)).length_le
  rw [h, List.length_cons] at hle
  exact hle

/-- The names of the placeholders in what is left of a path. -/
def scanNames (rest : List Char) : List String :=
  match _hopen : rest.dropWhile (· ≠ '\x7b') with
  | [] => []
  | _ :: after =>
    match _hclose : after.dropWhile (· ≠ '\x7d') with
    | [] => []
    | _ :: rest' => String.ofList (after.takeWhile (· ≠ '\x7d')) :: scanNames rest'
termination_by rest.length
decreasing_by
  exact Nat.lt_trans (length_lt_of_dropWhile _hclose) (length_lt_of_dropWhile _hopen)

/-- What is left of a path, inside a template literal. -/
def scanUrl (expression : String → String) (rest : List Char) : List Char :=
  match _hopen : rest.dropWhile (· ≠ '\x7b') with
  | [] => escapedText rest
  | _ :: after =>
    match _hclose : after.dropWhile (· ≠ '\x7d') with
    | [] => escapedText rest
    | _ :: rest' =>
      escapedText (rest.takeWhile (· ≠ '\x7b'))
        ++ substitution (expression (String.ofList (after.takeWhile (· ≠ '\x7d'))))
        ++ scanUrl expression rest'
termination_by rest.length
decreasing_by
  exact Nat.lt_trans (length_lt_of_dropWhile _hclose) (length_lt_of_dropWhile _hopen)

/-- The names of the placeholders of a path, in order. -/
def namesIn (path : String) : List String :=
  scanNames path.toList

/-- A path as a template literal, where `expression` says what stands for a placeholder. -/
def literalOf (path : String) (expression : String → String) : String :=
  String.ofList (backtick :: (scanUrl expression path.toList ++ [backtick]))

theorem scanNames_eq (rest : List Char) : scanNames rest = (ofChars rest).placeholders := by
  fun_induction scanNames rest with
  | case1 rest hopen =>
    have hcut : cutFirst rest = none := by simp only [cutFirst, hopen]
    rw [ofChars_eq, hcut]
    rfl
  | case2 rest _ after hopen hclose =>
    have hcut : cutFirst rest = none := by simp only [cutFirst, hopen, hclose]
    rw [ofChars_eq, hcut]
    rfl
  | case3 rest _ after hopen _ rest' hclose ih =>
    have hcut : cutFirst rest =
        some (rest.takeWhile (· ≠ '\x7b'), after.takeWhile (· ≠ '\x7d'), rest') := by
      simp only [cutFirst, hopen, hclose]
    rw [ofChars_eq, hcut, ih]
    rfl

theorem scanUrl_eq (expression : String → String) (rest : List Char) :
    scanUrl expression rest = (ofChars rest).segments.flatMap (fun s =>
      escapedText s.1 ++ substitution (expression (String.ofList s.2)))
      ++ escapedText (ofChars rest).last := by
  fun_induction scanUrl expression rest with
  | case1 rest hopen =>
    have hcut : cutFirst rest = none := by simp only [cutFirst, hopen]
    rw [ofChars_eq, hcut]
    rfl
  | case2 rest _ after hopen hclose =>
    have hcut : cutFirst rest = none := by simp only [cutFirst, hopen, hclose]
    rw [ofChars_eq, hcut]
    rfl
  | case3 rest _ after hopen _ rest' hclose ih =>
    have hcut : cutFirst rest =
        some (rest.takeWhile (· ≠ '\x7b'), after.takeWhile (· ≠ '\x7d'), rest') := by
      simp only [cutFirst, hopen, hclose]
    rw [ofChars_eq, hcut, ih]
    simp only [List.flatMap_cons, List.append_assoc]

/-- **The names that a scan finds are those of the placeholders.** -/
theorem namesIn_eq (path : String) : namesIn path = (ofPath path).placeholders :=
  scanNames_eq path.toList

/-- **A scan substitutes the placeholders.** -/
theorem literalOf_eq (path : String) (expression : String → String) :
    literalOf path expression = (ofPath path).urlTemplate expression := by
  rw [literalOf, scanUrl_eq, urlTemplate, ofPath]
  simp only [List.cons_append, List.append_assoc]

end PathTemplate

end TypedRequests
