import TypedRequests.Proofs.CommentEnds
import TypedRequests.TypeScript.Type

/-!
# Printed types are unambiguous

The text of a type determines it up to its comments. A type may stand anywhere in a module, and so
this is proved with an arbitrary text behind it, which tells where the type ends: every piece of the
text (a word, a key, a comment, the members between braces) is determined by how it begins.

* `TypeExpr.withoutComments` : a type without its comments.
* `TypeExpr.Readable` : references are identifiers and no words with another meaning.
* `word_append_inj`, `escaped_append_inj`, `propertyKey_append_inj`, `memberHead_append_inj` :
  words, literals, keys and the beginnings of members are determined by the text.
* `TypeExpr.Reads`, `TypeExpr.MembersRead` : so are types and members, up to comments; the array
  brackets behind a type are counted at last.
* `TypeExpr.reads`, `TypeExpr.membersRead` : this holds of all of them, by induction.
* `TypeExpr.text_determines_type` : the claim for whole texts.
-/

set_option autoImplicit false

namespace TypedRequests.TypeScript

variable {r s : List Char}

/-! ## Words -/

/-- The text does not continue an identifier. -/
def EndsWord (r : List Char) : Prop :=
  ∀ c ∈ r.head?, isIdentifierPart c = false

theorem endsWord_nil : EndsWord [] := nofun

theorem endsWord_cons {c : Char} (h : isIdentifierPart c = false) : EndsWord (c :: r) := by
  intro d hd
  obtain rfl := Option.some.inj hd
  exact h

theorem isIdentifierPart_of_start {c : Char} (h : isIdentifierStart c = true) :
    isIdentifierPart c = true := by
  simp only [isIdentifierStart, isIdentifierPart, Char.isAlphanum, Bool.or_eq_true] at h ⊢
  tauto

theorem forall_part_of_isIdentifier {name : String} (h : isIdentifier name = true) :
    ∀ c ∈ name.toList, isIdentifierPart c = true := by
  unfold isIdentifier at h
  cases hn : name.toList with
  | nil => exact nofun
  | cons c cs =>
    rw [hn, isIdentifierChars, Bool.and_eq_true, List.all_eq_true] at h
    exact List.forall_mem_cons.2 ⟨isIdentifierPart_of_start h.1, h.2⟩

theorem exists_start_of_isIdentifier {name : String} (h : isIdentifier name = true) :
    ∃ c cs, name.toList = c :: cs ∧ isIdentifierStart c = true := by
  unfold isIdentifier at h
  cases hn : name.toList with
  | nil =>
    rw [hn] at h
    cases h
  | cons c cs =>
    rw [hn, isIdentifierChars, Bool.and_eq_true] at h
    exact ⟨c, cs, rfl, h.1⟩

/-- **A word ends where the first character stands that does not continue it.** -/
theorem word_append_inj {v w : List Char} (hv : ∀ c ∈ v, isIdentifierPart c = true)
    (hw : ∀ c ∈ w, isIdentifierPart c = true) (hr : EndsWord r) (hs : EndsWord s)
    (h : v ++ r = w ++ s) : v = w ∧ r = s := by
  have hcut : ∀ {u t : List Char}, (∀ c ∈ u, isIdentifierPart c = true) → EndsWord t →
      (u ++ t).takeWhile isIdentifierPart = u := by
    intro u t hu ht
    have hnone : t.takeWhile isIdentifierPart = [] := by
      cases t with
      | nil => rfl
      | cons c cs => rw [List.takeWhile_cons, ht c rfl]; rfl
    rw [List.takeWhile_append_of_pos hu, hnone, List.append_nil]
  have heq : v = w := by rw [← hcut hv hr, h, hcut hw hs]
  exact ⟨heq, List.append_cancel_left (heq ▸ h)⟩

/-! ## Keys -/

theorem escapedChar_append_inj {c d : Char} (h : escapedChar c ++ r = escapedChar d ++ s) :
    c = d ∧ r = s := by
  unfold escapedChar at h
  split at h <;> split at h <;> grind

theorem escapedChar_append_ne (c : Char) (r s : List Char) : escapedChar c ++ r ≠ '"' :: s := by
  unfold escapedChar
  split <;> simp_all

/-- **A text between quotes ends at the first quote that is not escaped.** -/
theorem escaped_append_inj {cs ds : List Char}
    (h : cs.flatMap escapedChar ++ '"' :: r = ds.flatMap escapedChar ++ '"' :: s) :
    cs = ds ∧ r = s := by
  induction cs generalizing ds with
  | nil =>
    cases ds with
    | nil => exact ⟨rfl, (List.cons.inj h).2⟩
    | cons d ds =>
      rw [List.flatMap_cons, List.append_assoc] at h
      exact absurd h.symm (escapedChar_append_ne d _ _)
  | cons c cs ih =>
    rw [List.flatMap_cons, List.append_assoc] at h
    cases ds with
    | nil => exact absurd h (escapedChar_append_ne c _ _)
    | cons d ds =>
      rw [List.flatMap_cons, List.append_assoc] at h
      obtain ⟨rfl, htail⟩ := escapedChar_append_inj h
      obtain ⟨rfl, hrest⟩ := ih htail
      exact ⟨rfl, hrest⟩

theorem toList_stringLiteral (name : String) :
    (stringLiteral name).toList = '"' :: (name.toList.flatMap escapedChar ++ ['"']) := by
  simp [stringLiteral, escaped]

/-- A key begins with a letter, an underscore, a dollar sign or a quote. -/
theorem exists_head_propertyKey (name : String) :
    ∃ c cs, (propertyKey name).toList = c :: cs ∧ (isIdentifierStart c = true ∨ c = '"') := by
  unfold propertyKey
  split
  · rename_i h
    obtain ⟨c, cs, hn, hc⟩ := exists_start_of_isIdentifier h
    exact ⟨c, cs, hn, Or.inl hc⟩
  · exact ⟨'"', _, toList_stringLiteral name, Or.inr rfl⟩

theorem propertyKey_append_ne (name : String) (r : List Char) {c : Char}
    (hc : isIdentifierStart c = false) (hquote : c ≠ '"') (s : List Char) :
    (propertyKey name).toList ++ r ≠ c :: s := by
  obtain ⟨k, ks, hk, hstart⟩ := exists_head_propertyKey name
  rw [hk, List.cons_append]
  intro h
  obtain ⟨rfl, -⟩ := List.cons.inj h
  rcases hstart with hstart | rfl
  · rw [hc] at hstart
    cases hstart
  · exact hquote rfl

/-- **A key is determined by the text**, be it bare or quoted. -/
theorem propertyKey_append_inj {m n : String} (hr : EndsWord r) (hs : EndsWord s)
    (h : (propertyKey m).toList ++ r = (propertyKey n).toList ++ s) : m = n ∧ r = s := by
  -- no bare key begins with a quote
  have hmixed : ∀ {m n : String} {r s : List Char}, isIdentifier m = true →
      m.toList ++ r ≠ (stringLiteral n).toList ++ s := by
    intro m n r s hm
    obtain ⟨c, cs, hc, hstart⟩ := exists_start_of_isIdentifier hm
    rw [hc, toList_stringLiteral]
    intro h
    obtain ⟨rfl, -⟩ := List.cons.inj h
    exact absurd hstart (by decide)
  unfold propertyKey at h
  by_cases hm : isIdentifier m = true <;> by_cases hn : isIdentifier n = true
  · rw [if_pos hm, if_pos hn] at h
    obtain ⟨heq, hrest⟩ :=
      word_append_inj (forall_part_of_isIdentifier hm) (forall_part_of_isIdentifier hn) hr hs h
    exact ⟨String.toList_inj.1 heq, hrest⟩
  · rw [if_pos hm, if_neg hn] at h
    exact absurd h (hmixed hm)
  · rw [if_neg hm, if_pos hn] at h
    exact absurd h.symm (hmixed hn)
  · rw [if_neg hm, if_neg hn, toList_stringLiteral, toList_stringLiteral] at h
    simp only [List.cons_append, List.append_assoc, List.nil_append, List.cons.injEq,
      true_and] at h
    obtain ⟨heq, hrest⟩ := escaped_append_inj h
    exact ⟨String.toList_inj.1 heq, hrest⟩

namespace TypeExpr

/-! ## Members -/

theorem forall_mem_indent (depth : Nat) : ∀ c ∈ indent depth, c = ' ' :=
  fun _ hc => (List.mem_replicate.1 hc).2

theorem indent_succ (depth : Nat) : indent (depth + 1) = indent depth ++ [' ', ' '] := by
  rw [indent, indent, Nat.mul_succ, List.replicate_add]
  rfl

/-- What stands on the line of a member before its type. -/
def keyChars (name : String) (optional : Bool) : List Char :=
  (propertyKey name).toList ++ if optional then ['?', ':', ' '] else [':', ' ']

theorem keyChars_append_inj {m n : String} {o p : Bool}
    (h : keyChars m o ++ r = keyChars n p ++ s) : m = n ∧ o = p ∧ r = s := by
  have hends : ∀ (o : Bool) (r : List Char),
      EndsWord ((if o then ['?', ':', ' '] else [':', ' ']) ++ r) := by
    intro o r
    cases o <;> exact endsWord_cons (by decide)
  unfold keyChars at h
  rw [List.append_assoc, List.append_assoc] at h
  obtain ⟨rfl, h⟩ := propertyKey_append_inj (hends o r) (hends p s) h
  cases o <;> cases p <;> simp_all

theorem keyChars_append_ne (name : String) (optional : Bool) (r : List Char) {c : Char}
    (hc : isIdentifierStart c = false) (hquote : c ≠ '"') (s : List Char) :
    keyChars name optional ++ r ≠ c :: s := by
  rw [keyChars, List.append_assoc]
  exact propertyKey_append_ne name _ hc hquote s

/-- A member begins on its own line with its key, or with a comment that ends before that line. -/
theorem memberHead_eq (depth : Nat) (name : String) (optional : Bool) (comment : Option String) :
    memberHead depth name optional comment = indent depth ++ keyChars name optional ∨
      ∃ body, memberHead depth name optional comment = indent depth ++
          '/' :: '*' :: (body ++ '*' :: '/' :: '\n' :: (indent depth ++ keyChars name optional)) ∧
        NoEnd (body ++ ['*']) := by
  have hplain : memberHead depth name optional none = indent depth ++ keyChars name optional := by
    cases optional <;> simp [memberHead, keyChars]
  cases comment with
  | none => exact Or.inl hplain
  | some text =>
    have hsome : memberHead depth name optional (some text) =
        (docComment (String.ofList (indent depth)) text).toList
          ++ memberHead depth name optional none := by
      simp [memberHead]
    rw [hsome, hplain]
    rcases docComment_eq (forall_mem_indent depth) text with hempty | ⟨body, hbody, hend⟩
    · exact Or.inl (by rw [hempty, List.nil_append])
    · exact Or.inr ⟨body, by rw [hbody]; simp, hend⟩

/-- The beginning of a member is no other text that begins on a line of the same depth. -/
theorem memberHead_append_ne (depth : Nat) (name : String) (optional : Bool)
    (comment : Option String) (r : List Char) {c : Char} (hc : isIdentifierStart c = false)
    (hquote : c ≠ '"') (hslash : c ≠ '/') (s : List Char) :
    memberHead depth name optional comment ++ r ≠ indent depth ++ c :: s := by
  intro h
  rcases memberHead_eq depth name optional comment with he | ⟨body, he, _⟩
  · rw [he, List.append_assoc] at h
    exact keyChars_append_ne name optional r hc hquote s (List.append_cancel_left h)
  · rw [he, List.append_assoc] at h
    exact hslash (List.cons.inj (List.append_cancel_left h)).1.symm

/-- **The beginning of a member is determined by the text**, whatever its comment. -/
theorem memberHead_append_inj {depth : Nat} {m n : String} {o p : Bool} {c d : Option String}
    (h : memberHead depth m o c ++ r = memberHead depth n p d ++ s) :
    m = n ∧ o = p ∧ r = s := by
  rcases memberHead_eq depth m o c with hm | ⟨body, hm, hend⟩
  · rw [hm, List.append_assoc] at h
    rcases memberHead_eq depth n p d with hn | ⟨body', hn, _⟩
    · rw [hn, List.append_assoc] at h
      exact keyChars_append_inj (List.append_cancel_left h)
    · rw [hn, List.append_assoc] at h
      exact absurd (List.append_cancel_left h)
        (keyChars_append_ne m o r (by decide) (by decide) _)
  · rw [hm, List.append_assoc] at h
    rcases memberHead_eq depth n p d with hn | ⟨body', hn, hend'⟩
    · rw [hn, List.append_assoc] at h
      exact absurd (List.append_cancel_left h).symm
        (keyChars_append_ne n p s (by decide) (by decide) _)
    · rw [hn, List.append_assoc] at h
      have hbody := List.append_cancel_left h
      simp only [List.cons_append, List.append_assoc, List.cons.injEq, true_and] at hbody
      obtain ⟨-, hrest⟩ := hend.append_inj hend' hbody
      exact keyChars_append_inj (List.append_cancel_left (List.cons.inj hrest).2)

/-! ## Readable types -/

mutual

/-- A type without its comments. -/
def withoutComments : TypeExpr → TypeExpr
  | array item => array (withoutComments item)
  | object members => object (membersWithoutComments members)
  | map value => map (withoutComments value)
  | string => string
  | number => number
  | boolean => boolean
  | reference name => reference name
  | any => any
  | unknown => unknown

/-- Members without their comments. -/
def membersWithoutComments : List (Member TypeExpr) → List (Member TypeExpr)
  | [] => []
  | m :: ms => ⟨m.name, withoutComments m.type, m.optional, none⟩ :: membersWithoutComments ms

end

/-- The words that are printed for types without a name. -/
def typeWords : List String :=
  ["string", "number", "boolean", "any", "unknown"]

/-- The references of a type can be told from other types: they are identifiers, and none is the
word of another type. -/
def Readable (t : TypeExpr) : Prop :=
  ∀ name ∈ t.names, isIdentifier name = true ∧ name ∉ typeWords

/-- The references in the types of members can be told from other types. -/
def MembersReadable (ms : List (Member TypeExpr)) : Prop :=
  ∀ name ∈ memberNames ms, isIdentifier name = true ∧ name ∉ typeWords

theorem membersReadable_cons {m : Member TypeExpr} {ms : List (Member TypeExpr)} :
    MembersReadable (m :: ms) ↔ m.type.Readable ∧ MembersReadable ms := by
  simp only [MembersReadable, Readable, memberNames, List.mem_append]
  exact ⟨fun h => ⟨fun n hn => h n (Or.inl hn), fun n hn => h n (Or.inr hn)⟩,
    fun h n hn => hn.elim (h.1 n) (h.2 n)⟩

/-! ## Arrays -/

/-- A type without the arrays around it. -/
def element : TypeExpr → TypeExpr
  | array item => element item
  | t => t

/-- The number of arrays around a type. -/
def dimension : TypeExpr → Nat
  | array item => dimension item + 1
  | _ => 0

/-- The brackets of a number of arrays. -/
def brackets : Nat → List Char
  | 0 => []
  | n + 1 => '[' :: ']' :: brackets n

theorem brackets_succ (n : Nat) : brackets (n + 1) = brackets n ++ ['[', ']'] := by
  induction n with
  | zero => rfl
  | succ n ih =>
    calc brackets (n + 1 + 1) = '[' :: ']' :: brackets (n + 1) := rfl
      _ = '[' :: ']' :: (brackets n ++ ['[', ']']) := by rw [ih]
      _ = brackets (n + 1) ++ ['[', ']'] := rfl

theorem chars_array (depth : Nat) (item : TypeExpr) :
    chars depth (array item) = chars depth item ++ ['[', ']'] :=
  rfl

theorem chars_eq (depth : Nat) (t : TypeExpr) :
    chars depth t = chars depth t.element ++ brackets t.dimension := by
  fun_induction element t with
  | case1 item ih => rw [chars_array, ih, dimension, brackets_succ, List.append_assoc]
  | case2 t ht =>
    cases t with
    | array item => exact absurd rfl (ht item)
    | _ => exact (List.append_nil _).symm

theorem withoutComments_eq (t : TypeExpr) :
    t.withoutComments = array^[t.dimension] t.element.withoutComments := by
  fun_induction element t with
  | case1 item ih => rw [withoutComments, ih, dimension, Function.iterate_succ_apply']
  | case2 t ht =>
    cases t with
    | array item => exact absurd rfl (ht item)
    | _ => rfl

theorem names_element (t : TypeExpr) : t.element.names = t.names := by
  fun_induction element t with
  | case1 item ih => rw [ih, names]
  | case2 t ht => rfl

theorem element_ne_array (t item : TypeExpr) : t.element ≠ array item := by
  fun_induction element t with
  | case1 t ih => exact ih
  | case2 t ht => exact ht item

theorem endsWord_brackets (n : Nat) (hr : EndsWord r) : EndsWord (brackets n ++ r) := by
  cases n with
  | zero => exact hr
  | succ n => exact endsWord_cons (by decide)

/-- The number of brackets is determined by the text, if no further one follows. -/
theorem brackets_append_inj {m n : Nat} (hr : r.head? ≠ some '[') (hs : s.head? ≠ some '[')
    (h : brackets m ++ r = brackets n ++ s) : m = n ∧ r = s := by
  induction m generalizing n with
  | zero =>
    cases n with
    | zero => exact ⟨rfl, h⟩
    | succ n =>
      rw [brackets, List.nil_append] at h
      rw [h] at hr
      exact absurd rfl hr
  | succ m ih =>
    cases n with
    | zero =>
      rw [brackets, brackets, List.nil_append] at h
      rw [← h] at hs
      exact absurd rfl hs
    | succ n =>
      obtain ⟨rfl, hrest⟩ := ih (List.cons.inj (List.cons.inj h).2).2
      exact ⟨rfl, hrest⟩

/-! ## Shapes -/

/-- The word that is printed for a type, unless it is printed with brackets or braces. -/
def word? : TypeExpr → Option String
  | string => some "string"
  | number => some "number"
  | boolean => some "boolean"
  | any => some "any"
  | unknown => some "unknown"
  | reference name => some name
  | array _ | object _ | map _ => none

variable {t u : TypeExpr} {w : String}

theorem chars_of_word? (h : t.word? = some w) (depth : Nat) : chars depth t = w.toList := by
  cases t <;> cases h <;> rfl

theorem isIdentifier_of_word? (ht : t.Readable) (h : t.word? = some w) : isIdentifier w = true := by
  cases t with
  | reference name =>
    cases h
    exact (ht _ (List.mem_singleton.2 rfl)).1
  | _ => cases h <;> decide +kernel

/-- The type that is printed as a word. -/
def ofWord (w : String) : TypeExpr :=
  if w = "string" then string
  else if w = "number" then number
  else if w = "boolean" then boolean
  else if w = "any" then any
  else if w = "unknown" then unknown
  else reference w

/-- A readable type that is printed as a word is the type of this word. -/
theorem eq_ofWord (ht : t.Readable) (h : t.word? = some w) : t = ofWord w := by
  cases t with
  | reference name =>
    cases h
    have hwords := (ht _ (List.mem_singleton.2 rfl)).2
    simp only [typeWords, List.mem_cons, not_or] at hwords
    simp [ofWord, hwords]
  | _ => cases h <;> rfl

/-- A type that is no array is printed as a word, or between braces. -/
theorem shape_cases (harray : ∀ item, u ≠ array item) :
    (∃ w, u.word? = some w) ∨ u = object [] ∨ (∃ n ns, u = object (n :: ns)) ∨
      ∃ value, u = map value := by
  cases u with
  | array item => exact absurd rfl (harray item)
  | object members =>
    cases members with
    | nil => exact Or.inr (Or.inl rfl)
    | cons n ns => exact Or.inr (Or.inr (Or.inl ⟨n, ns, rfl⟩))
  | map value => exact Or.inr (Or.inr (Or.inr ⟨value, rfl⟩))
  | _ => exact Or.inl ⟨_, rfl⟩

/-- No word is printed like a type between braces. -/
theorem word_append_ne (ht : t.Readable) (h : t.word? = some w) (depth : Nat) (r s : List Char) :
    chars depth t ++ r ≠ '\x7b' :: s := by
  obtain ⟨c, cs, hw, hstart⟩ := exists_start_of_isIdentifier (isIdentifier_of_word? ht h)
  rw [chars_of_word? h, hw]
  intro he
  obtain ⟨rfl, -⟩ := List.cons.inj he
  exact absurd hstart (by decide)

theorem chars_object_append (depth : Nat) (m : Member TypeExpr) (ms : List (Member TypeExpr))
    (r : List Char) :
    chars depth (object (m :: ms)) ++ r =
      '\x7b' :: '\n' :: (memberChars (depth + 1) (m :: ms) ++ (indent depth ++ '\x7d' :: r)) := by
  have hchars : chars depth (object (m :: ms)) =
    '\x7b' :: '\n' :: memberChars (depth + 1) (m :: ms) ++ indent depth ++ ['\x7d'] := rfl
  simp [hchars]

theorem chars_map_append (depth : Nat) (value : TypeExpr) (r : List Char) :
    chars depth (map value) ++ r =
      '\x7b' :: '\n' :: (indent (depth + 1) ++ '[' :: ("prop: string]: ".toList ++
        (chars (depth + 1) value ++ ';' :: '\n' :: (indent depth ++ '\x7d' :: r)))) := by
  have hchars : chars depth (map value) =
    '\x7b' :: '\n' :: indexHead (depth + 1) ++ chars (depth + 1) value ++ [';', '\n']
      ++ indent depth ++ ['\x7d'] := rfl
  simp [hchars, indexHead]

theorem memberChars_cons_append (depth : Nat) (m : Member TypeExpr) (ms : List (Member TypeExpr))
    (r : List Char) :
    memberChars depth (m :: ms) ++ r = memberHead depth m.name m.optional m.comment ++
      (chars depth m.type ++ ';' :: '\n' :: (memberChars depth ms ++ r)) := by
  have hchars : memberChars depth (m :: ms) =
    memberHead depth m.name m.optional m.comment ++ chars depth m.type ++ [';', '\n']
      ++ memberChars depth ms := rfl
  simp [hchars]

/-! ## Reading -/

/-- The type is determined by its text up to comments, whatever follows. Arrays are determined
together with what follows, since that may be further brackets. -/
def Reads (t : TypeExpr) : Prop :=
  ∀ (depth : Nat) (u : TypeExpr) (r s : List Char), t.Readable → u.Readable →
    EndsWord r → EndsWord s → chars depth t ++ r = chars depth u ++ s →
      t.element.withoutComments = u.element.withoutComments ∧
        brackets t.dimension ++ r = brackets u.dimension ++ s

/-- The members are determined by their text up to comments, whatever follows the brace that closes
them. -/
def MembersRead (ms : List (Member TypeExpr)) : Prop :=
  ∀ (depth : Nat) (ns : List (Member TypeExpr)) (r s : List Char), MembersReadable ms →
    MembersReadable ns →
    memberChars (depth + 1) ms ++ (indent depth ++ '\x7d' :: r) =
      memberChars (depth + 1) ns ++ (indent depth ++ '\x7d' :: s) →
    membersWithoutComments ms = membersWithoutComments ns ∧ r = s

/-- A type is determined by a text in which neither a word nor brackets go on behind it. -/
theorem Reads.append_inj (h : Reads t) {depth : Nat} (ht : t.Readable) (hu : u.Readable)
    (hr : EndsWord r) (hs : EndsWord s) (hr' : r.head? ≠ some '[') (hs' : s.head? ≠ some '[')
    (he : chars depth t ++ r = chars depth u ++ s) :
    t.withoutComments = u.withoutComments ∧ r = s := by
  obtain ⟨helement, hbrackets⟩ := h depth u r s ht hu hr hs he
  obtain ⟨hdimension, hrest⟩ := brackets_append_inj hr' hs' hbrackets
  refine ⟨?_, hrest⟩
  rw [withoutComments_eq t, withoutComments_eq u, helement, hdimension]

/-- The type of a member is determined by its text up to the semicolon. -/
theorem Reads.append_semicolon_inj (h : Reads t) {depth : Nat} (ht : t.Readable) (hu : u.Readable)
    (he : chars depth t ++ ';' :: r = chars depth u ++ ';' :: s) :
    t.withoutComments = u.withoutComments ∧ r = s := by
  have hends : ∀ r : List Char, EndsWord (';' :: r) := fun r => endsWord_cons (by decide)
  obtain ⟨heq, hrest⟩ :=
    h.append_inj ht hu (hends r) (hends s) (by simp) (by simp) he
  exact ⟨heq, (List.cons.inj hrest).2⟩

/-- It is enough to compare a type that is no array with others that are none. -/
theorem reads_of_element (ht : t.element = t) (hd : t.dimension = 0)
    (h : ∀ (depth : Nat) (u : TypeExpr) (r s : List Char), t.Readable → u.Readable →
      EndsWord r → EndsWord s → (∀ item, u ≠ array item) →
      chars depth t ++ r = chars depth u ++ s → t.withoutComments = u.withoutComments ∧ r = s) :
    Reads t := by
  intro depth u r s hreadable hu hr hs he
  have hu' : u.element.Readable := by
    unfold Readable
    rw [names_element]
    exact hu
  rw [chars_eq depth u, List.append_assoc] at he
  rw [ht, hd]
  exact h depth u.element r _ hreadable hu' hr (endsWord_brackets _ hs) (element_ne_array u) he

theorem reads_array {item : TypeExpr} (h : Reads item) : Reads (array item) := by
  intro depth u r s ht hu hr hs he
  rw [chars_array, List.append_assoc] at he
  obtain ⟨helement, hbrackets⟩ := h depth u _ s ht hu (endsWord_cons (by decide)) hs he
  refine ⟨helement, ?_⟩
  rw [dimension, brackets_succ, List.append_assoc]
  exact hbrackets

theorem reads_word (h : t.word? = some w) : Reads t := by
  have helement : t.element = t ∧ t.dimension = 0 := by cases t <;> cases h <;> exact ⟨rfl, rfl⟩
  refine reads_of_element helement.1 helement.2 fun depth u r s ht hu hr hs harray he => ?_
  rcases shape_cases harray with ⟨v, hword⟩ | rfl | ⟨n, ns, rfl⟩ | ⟨value, rfl⟩
  · rw [chars_of_word? h, chars_of_word? hword] at he
    obtain ⟨heq, hrest⟩ :=
      word_append_inj (forall_part_of_isIdentifier (isIdentifier_of_word? ht h))
        (forall_part_of_isIdentifier (isIdentifier_of_word? hu hword)) hr hs he
    obtain rfl := String.toList_inj.1 heq
    exact ⟨by rw [eq_ofWord ht h, eq_ofWord hu hword], hrest⟩
  · exact absurd he (word_append_ne ht h depth r _)
  · exact absurd he (word_append_ne ht h depth r _)
  · exact absurd he (word_append_ne ht h depth r _)

theorem reads_emptyObject : Reads (object []) := by
  refine reads_of_element rfl rfl fun depth u r s ht hu hr hs harray he => ?_
  rcases shape_cases harray with ⟨v, hword⟩ | rfl | ⟨n, ns, rfl⟩ | ⟨value, rfl⟩
  · exact absurd he.symm (word_append_ne hu hword depth s _)
  · exact ⟨rfl, List.append_cancel_left he⟩
  · rw [chars_object_append] at he
    exact absurd (List.cons.inj (List.cons.inj he).2).1 (by decide)
  · rw [chars_map_append] at he
    exact absurd (List.cons.inj (List.cons.inj he).2).1 (by decide)

theorem reads_object {m : Member TypeExpr} {ms : List (Member TypeExpr)}
    (h : MembersRead (m :: ms)) : Reads (object (m :: ms)) := by
  refine reads_of_element rfl rfl fun depth u r s ht hu hr hs harray he => ?_
  rw [chars_object_append] at he
  rcases shape_cases harray with ⟨v, hword⟩ | rfl | ⟨n, ns, rfl⟩ | ⟨value, rfl⟩
  · exact absurd he.symm (word_append_ne hu hword depth s _)
  · exact absurd (List.cons.inj (List.cons.inj he).2).1 (by decide)
  · rw [chars_object_append] at he
    obtain ⟨heq, hrest⟩ := h depth (n :: ns) r s ht hu (List.cons.inj (List.cons.inj he).2).2
    exact ⟨by rw [withoutComments, heq, withoutComments], hrest⟩
  · -- no member begins with a bracket
    rw [chars_map_append, memberChars_cons_append] at he
    exact absurd (List.cons.inj (List.cons.inj he).2).2
      (memberHead_append_ne _ _ _ _ _ (by decide) (by decide) (by decide) _)

theorem reads_map {value : TypeExpr} (h : Reads value) : Reads (map value) := by
  refine reads_of_element rfl rfl fun depth u r s ht hu hr hs harray he => ?_
  rw [chars_map_append] at he
  rcases shape_cases harray with ⟨v, hword⟩ | rfl | ⟨n, ns, rfl⟩ | ⟨value', rfl⟩
  · exact absurd he.symm (word_append_ne hu hword depth s _)
  · exact absurd (List.cons.inj (List.cons.inj he).2).1 (by decide)
  · rw [chars_object_append, memberChars_cons_append] at he
    exact absurd (List.cons.inj (List.cons.inj he).2).2.symm
      (memberHead_append_ne _ _ _ _ _ (by decide) (by decide) (by decide) _)
  · rw [chars_map_append] at he
    have hu' : value'.Readable := hu
    have hline := List.append_cancel_left (List.cons.inj (List.cons.inj he).2).2
    have hvalue := List.append_cancel_left (List.cons.inj hline).2
    obtain ⟨heq, hrest⟩ := h.append_semicolon_inj ht hu' hvalue
    have hclose := List.append_cancel_left (List.cons.inj hrest).2
    exact ⟨by rw [withoutComments, heq, withoutComments], (List.cons.inj hclose).2⟩

/-- A member is indented further than the brace that closes its object. -/
theorem memberChars_append_ne (depth : Nat) (m : Member TypeExpr) (ms : List (Member TypeExpr))
    (r s : List Char) : memberChars (depth + 1) (m :: ms) ++ r ≠ indent depth ++ '\x7d' :: s := by
  rw [memberChars_cons_append]
  intro he
  rcases memberHead_eq (depth + 1) m.name m.optional m.comment with h | ⟨body, h, _⟩ <;>
  · rw [h, indent_succ] at he
    simp only [List.append_assoc] at he
    exact absurd (List.cons.inj (List.append_cancel_left he)).1 (by decide)

theorem membersRead_nil : MembersRead [] := by
  intro depth ns r s _ _ he
  cases ns with
  | nil => exact ⟨rfl, (List.cons.inj (List.append_cancel_left he)).2⟩
  | cons n ns => exact absurd he.symm (memberChars_append_ne depth n ns _ r)

theorem membersRead_cons {m : Member TypeExpr} {ms : List (Member TypeExpr)} (hm : Reads m.type)
    (hms : MembersRead ms) : MembersRead (m :: ms) := by
  intro depth ns r s hreadable hreadable' he
  cases ns with
  | nil => exact absurd he (memberChars_append_ne depth m ms _ s)
  | cons n ns =>
    obtain ⟨htype, hrest⟩ := membersReadable_cons.1 hreadable
    obtain ⟨htype', hrest'⟩ := membersReadable_cons.1 hreadable'
    rw [memberChars_cons_append, memberChars_cons_append] at he
    obtain ⟨hname, hoptional, he⟩ := memberHead_append_inj he
    obtain ⟨heq, he⟩ := hm.append_semicolon_inj htype htype' he
    obtain ⟨hmembers, hend⟩ := hms depth ns r s hrest hrest' (List.cons.inj he).2
    refine ⟨?_, hend⟩
    rw [membersWithoutComments, membersWithoutComments, hname, hoptional, heq, hmembers]

mutual

/-- **Every type is determined by its text**, up to comments. -/
theorem reads : (t : TypeExpr) → Reads t
  | array item => reads_array (reads item)
  | object [] => reads_emptyObject
  | object (m :: ms) => reads_object (membersRead_cons (reads m.type) (membersRead ms))
  | map value => reads_map (reads value)
  | string | number | boolean | any | unknown | reference _ => reads_word rfl

/-- **Members are determined by their text**, up to comments. -/
theorem membersRead : (ms : List (Member TypeExpr)) → MembersRead ms
  | [] => membersRead_nil
  | m :: ms => membersRead_cons (reads m.type) (membersRead ms)

end

/-- **The printer is unambiguous.** Two readable types with the same text are equal up to
comments: they have the same shape, the same members in the same order and the same references, at
every depth. -/
theorem text_determines_type (ht : t.Readable) (hu : u.Readable) (h : t.text = u.text) :
    t.withoutComments = u.withoutComments := by
  have hchars : chars 0 t ++ [] = chars 0 u ++ [] := by
    rw [List.append_nil, List.append_nil]
    exact String.ofList_injective h
  exact ((reads t).append_inj ht hu endsWord_nil endsWord_nil nofun nofun hchars).1

/-- A type with one member, which needs a quoted key. -/
def petList (comment : String) : TypeExpr :=
  object [⟨"pet-list", array (reference "Pet"), true, some comment⟩]

/-- Two comments that differ in white space and contain an end mark are printed alike. -/
theorem text_determines_type_petList :
    (petList "a */ b: string;").Readable ∧ (petList " a */ b: string;\n").Readable ∧
      petList "a */ b: string;" ≠ petList " a */ b: string;\n" ∧
      (petList "a */ b: string;").text = (petList " a */ b: string;\n").text ∧
      (petList "a */ b: string;").withoutComments =
        (petList " a */ b: string;\n").withoutComments := by
  have hreadable : ∀ comment, (petList comment).Readable := by
    intro comment name hname
    obtain rfl := List.mem_singleton.1 hname
    decide +kernel
  have htext : (petList "a */ b: string;").text = (petList " a */ b: string;\n").text := by
    decide +kernel
  exact ⟨hreadable _, hreadable _, by simp [petList], htext,
    text_determines_type (hreadable _) (hreadable _) htext⟩

end TypeExpr

end TypedRequests.TypeScript
