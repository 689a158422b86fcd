/-!
# Search and replace

* `stripPrefix?`, `stripSuffix?` : a text without a given beginning or end.
* `contains` : a text occurs inside another.
* `replaceAll` : every occurrence replaced, from left to right, without overlaps.
-/

set_option autoImplicit false

namespace TypedRequests.Text

/-- What follows a given beginning. -/
def stripPrefix? : List Char → List Char → Option (List Char)
  | [], cs => some cs
  | _ :: _, [] => none
  | p :: ps, c :: cs => if p = c then stripPrefix? ps cs else none

theorem stripPrefix?_eq_some_iff {ps cs rest : List Char} :
    stripPrefix? ps cs = some rest ↔ cs = ps ++ rest := by
  induction ps generalizing cs with
  | nil => simp [stripPrefix?]
  | cons p ps ih =>
    cases cs with
    | nil => simp [stripPrefix?]
    | cons c cs =>
      simp only [stripPrefix?]
      split <;> rename_i h
      · simp [ih, h]
      · simp [Ne.symm h]

theorem length_lt_of_stripPrefix? {p : Char} {ps cs rest : List Char}
    (h : stripPrefix? (p :: ps) cs = some rest) : rest.length < cs.length := by
  rw [stripPrefix?_eq_some_iff.1 h]
  simp only [List.length_append, List.length_cons]
  omega

/-- What precedes a given end. -/
def stripSuffix? (suffix cs : List Char) : Option (List Char) :=
  (stripPrefix? suffix.reverse cs.reverse).map List.reverse

/-- The text `part` occurs in a text. -/
def contains (part : List Char) : List Char → Bool
  | [] => part.isEmpty
  | c :: cs => (stripPrefix? part (c :: cs)).isSome || contains part cs

/-- Every occurrence of `p :: ps` is replaced by `new`. -/
def replaceNonempty (p : Char) (ps new : List Char) (cs : List Char) : List Char :=
  match cs with
  | [] => []
  | c :: cs' =>
    match _h : stripPrefix? (p :: ps) (c :: cs') with
    | some rest => new ++ replaceNonempty p ps new rest
    | none => c :: replaceNonempty p ps new cs'
termination_by cs.length
decreasing_by
  · simpa using length_lt_of_stripPrefix? _h
  · simp

/-- Every occurrence of `old` is replaced by `new`; the empty text occurs around every
character. -/
def replaceAll (old new cs : List Char) : List Char :=
  match old with
  | [] => new ++ cs.flatMap fun c => c :: new
  | p :: ps => replaceNonempty p ps new cs

/-- Every occurrence of the string `old` is replaced by `new`. -/
def replaced (old new s : String) : String :=
  String.ofList (replaceAll old.toList new.toList s.toList)

end TypedRequests.Text
