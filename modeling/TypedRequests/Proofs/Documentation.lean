import Mathlib.Data.List.TakeWhile
import TypedRequests.Proofs.UniqueReading
import TypedRequests.TypeScript.Statement

/-!
# Documentation in printed code

Documentation is printed in comments, each complete and before what it documents. A printed module
is therefore the module without its documentation, with such comments put in.

* `docComment_eq_empty_iff`, `completeComment_docComment` : a blank text has no comment, and any
  other has one complete comment.
* `Commented` : a text with comments put in, each on lines of its own before a declaration or a
  member.
* `Statement.withoutDocs` : a statement without its documentation.
* `TypeExpr.commented_chars`, `Statement.commented_text`, `Module.commented_text` : what is printed
  is what is printed without documentation, with comments put in.
-/

set_option autoImplicit false

namespace TypedRequests

namespace Text

/-! ## Blank texts -/

theorem trimEnd_eq_nil_iff {cs : List Char} : trimEnd cs = [] ↔ ∀ c ∈ cs, isBlank c = true := by
  simp [trimEnd, dropRightWhile, List.dropWhile_eq_nil_iff]

/-- A text of which nothing is left between its blank ends is blank. -/
theorem trim_eq_nil_iff {cs : List Char} : trim cs = [] ↔ ∀ c ∈ cs, isBlank c = true := by
  rw [trim, trimEnd_eq_nil_iff]
  refine ⟨fun h c hc => ?_, fun h c hc => h c ((List.dropWhile_suffix _).subset hc)⟩
  have hcs := List.takeWhile_append_dropWhile (p := isBlank) (l := cs)
  rw [← hcs] at hc
  rcases List.mem_append.1 hc with hc | hc
  · exact List.mem_takeWhile_imp hc
  · exact h c hc

theorem trimmed_eq_empty_iff {s : String} : trimmed s = "" ↔ isAllBlank s = true := by
  rw [trimmed, ← String.toList_inj, String.toList_ofList, isAllBlank, List.all_eq_true]
  exact trim_eq_nil_iff

/-- Only the empty text has no lines. -/
theorem lines_eq_nil_iff {cs : List Char} : lines cs = [] ↔ cs = [] := by
  refine ⟨fun h => ?_, fun h => by rw [h]; rfl⟩
  cases cs with
  | nil => rfl
  | cons c cs =>
    rw [lines, splitOn] at h
    split at h
    · cases hsplit : splitOn '\n' cs with
      | nil => exact absurd hsplit (splitOn_ne_nil '\n' cs)
      | cons piece pieces =>
        rw [hsplit, linesOfPieces] at h
        · cases h
        · simp
    · cases hsplit : splitOn '\n' cs with
      | nil => exact absurd hsplit (splitOn_ne_nil '\n' cs)
      | cons piece pieces =>
        rw [hsplit] at h
        cases pieces <;> simp [linesOfPieces] at h

end Text

namespace TypeScript

open Text

theorem commentLines_eq_nil_iff {cs : List Char} :
    commentLines cs = [] ↔ ∀ c ∈ cs, isBlank c = true := by
  have hreplace : ∀ xs, replaceAll ['*', '/'] ['*', '\\', '/'] xs = [] ↔ xs = [] := by
    intro xs
    rw [← List.head?_eq_none_iff, head?_replaceAll, List.head?_eq_none_iff]
  rw [commentLines, List.map_eq_nil_iff, lines_eq_nil_iff, hreplace, trim_eq_nil_iff]

section DocComment

variable {indent : List Char} {text : String}

/-- **A text that is not blank has one complete comment**, whatever it contains. -/
theorem completeComment_docComment (hindent : ∀ c ∈ indent, c = ' ')
    (htext : ¬ ∀ c ∈ text.toList, isBlank c = true) :
    CompleteComment indent (docComment (String.ofList indent) text).toList := by
  rw [docComment, String.toList_ofList, String.toList_ofList]
  exact completeComment_commentOfLines hindent (mt commentLines_eq_nil_iff.1 htext)
    fun l hl => noEnd_of_mem_commentLines hl

/-- **A text has no comment exactly if it is blank.** -/
theorem docComment_eq_empty_iff (hindent : ∀ c ∈ indent, c = ' ') :
    docComment (String.ofList indent) text = "" ↔ isAllBlank text = true := by
  rw [isAllBlank, List.all_eq_true]
  refine ⟨fun h => ?_, fun h => ?_⟩
  · by_contra htext
    obtain ⟨body, hbody, _⟩ := completeComment_docComment hindent htext
    rw [h] at hbody
    simp at hbody
  · rw [docComment, commentLines_eq_nil_iff.2 h]
    rfl

end DocComment

/-! ## Comments put in -/

/-- A declaration or a member, which may be documented: its code begins on a line of its own, at the
margin with its keyword or behind the indentation with its key. -/
def Documentable (indent code : List Char) : Prop :=
  (indent = [] ∧ ∃ rest, code = "export ".toList ++ rest) ∨
    ∃ name optional rest, code = indent ++ (TypeExpr.keyChars name optional ++ rest)

/-- The text is the code with complete comments put in on lines of their own, each before what may
be documented. The flag says that a line begins here. -/
inductive Commented : Bool → List Char → List Char → Prop where
  | nil (start : Bool) : Commented start [] []
  | char {start : Bool} {code text : List Char} (c : Char) (h : Commented (c == '\n') code text) :
      Commented start (c :: code) (c :: text)
  | comment {indent comment code text : List Char} (hindent : ∀ c ∈ indent, c = ' ')
      (hcomment : CompleteComment indent comment) (hcode : Documentable indent code)
      (h : Commented true code text) : Commented true code (comment ++ text)

namespace Commented

variable {start : Bool} {code code' text text' : List Char}

/-- No comment is needed where a line begins. -/
theorem lift (h : Commented false code text) (start : Bool) : Commented start code text := by
  cases h with
  | nil => exact .nil start
  | char c h => exact .char c h

/-- The same text before both. -/
theorem append_left (start : Bool) (cs : List Char) (h : Commented false code text) :
    Commented start (cs ++ code) (cs ++ text) := by
  induction cs generalizing start with
  | nil => exact h.lift start
  | cons c cs ih => exact .char c (ih _)

theorem refl (start : Bool) (cs : List Char) : Commented start cs cs := by
  simpa using append_left start cs (.nil false)

/-- A line ends in both, and the next one begins. -/
theorem line (start : Bool) (cs : List Char) (h : Commented true code text) :
    Commented start (cs ++ '\n' :: code) (cs ++ '\n' :: text) :=
  append_left start cs (.char '\n' h)

/-- What may be documented is. -/
theorem docComment (indent : List Char) (hindent : ∀ c ∈ indent, c = ' ') (doc : String)
    (hcode : Documentable indent code) (h : Commented true code text) :
    Commented true code ((docComment (String.ofList indent) doc).toList ++ text) := by
  by_cases hdoc : ∀ c ∈ doc.toList, isBlank c = true
  · rw [(docComment_eq_empty_iff hindent).2 (List.all_eq_true.2 hdoc)]
    exact h
  · exact .comment hindent (completeComment_docComment hindent hdoc) hcode h

/-- A declaration is documented, or not. -/
theorem docCommentOf (doc : Option String)
    (h : Commented true ("export ".toList ++ code) ("export ".toList ++ text)) :
    Commented true ((docCommentOf none).toList ++ ("export ".toList ++ code))
      ((docCommentOf doc).toList ++ ("export ".toList ++ text)) := by
  have hnone : (TypeScript.docCommentOf none).toList = [] := rfl
  rw [hnone, List.nil_append]
  cases doc with
  | none => rwa [hnone, List.nil_append]
  | some doc => exact docComment [] nofun doc (Or.inl ⟨rfl, _, rfl⟩) h

end Commented

/-! ## Types -/

namespace TypeExpr

/-- A member stands on a line of its own, behind its comment. -/
theorem memberHead_append (depth : Nat) (name : String) (optional : Bool) (doc : Option String)
    (r : List Char) :
    memberHead depth name optional doc ++ r =
      (doc.elim [] fun c => (docComment (String.ofList (indent depth)) c).toList) ++
        (indent depth ++ (keyChars name optional ++ r)) := by
  cases optional <;> simp [memberHead, keyChars]

mutual

/-- **A printed type is the type without comments, with comments put in.** -/
theorem commented_chars (depth : Nat) : (t : TypeExpr) → {code rest : List Char} →
    Commented false code rest →
      Commented false (chars depth t.withoutComments ++ code) (chars depth t ++ rest)
  | array item, _, _, h => by
    rw [withoutComments, chars_array, chars_array, List.append_assoc, List.append_assoc]
    exact commented_chars depth item (h.append_left false ['[', ']'])
  | object [], _, _, h => h.append_left false _
  | object (m :: ms), _, _, h => by
    rw [withoutComments, membersWithoutComments, chars_object_append, chars_object_append]
    exact .line false ['\x7b'] <| commented_memberChars (depth + 1) (m :: ms) <|
      h.append_left false ['\x7d'] |>.append_left true (indent depth)
  | map value, _, _, h => by
    rw [withoutComments, chars_map_append, chars_map_append]
    have hvalue := commented_chars (depth + 1) value <| .line false [';'] <|
      h.append_left false ['\x7d'] |>.append_left true (indent depth)
    exact .line false ['\x7b'] <| .append_left true (indent (depth + 1)) <|
      .char '[' (hvalue.append_left false _)
  | string, _, _, h | number, _, _, h | boolean, _, _, h | reference _, _, _, h | any, _, _, h
  | unknown, _, _, h => h.append_left false _

/-- **So are printed members**, at the beginning of a line. -/
theorem commented_memberChars (depth : Nat) : (ms : List (Member TypeExpr)) →
    {code rest : List Char} → Commented true code rest →
      Commented true (memberChars depth (membersWithoutComments ms) ++ code)
        (memberChars depth ms ++ rest)
  | [], _, _, h => h
  | m :: ms, _, _, h => by
    have hmembers := commented_memberChars depth ms h
    have hmember := commented_chars depth m.type (.line false [';'] hmembers)
    have hhead := hmember.append_left false (keyChars m.name m.optional)
      |>.append_left true (indent depth)
    rw [memberChars_cons_append, membersWithoutComments, memberChars_cons_append,
      memberHead_append, memberHead_append]
    cases m.comment with
    | none => exact hhead
    | some doc =>
      exact .docComment (indent depth) (forall_mem_indent depth) doc
        (Or.inr ⟨m.name, m.optional, _, rfl⟩) hhead

end

/-- A printed type behind other text. -/
theorem commented_text (t : TypeExpr) {code rest : List Char} (h : Commented false code rest) :
    Commented false (t.withoutComments.text.toList ++ code) (t.text.toList ++ rest) := by
  rw [text, text, String.toList_ofList, String.toList_ofList]
  exact commented_chars 0 t h

end TypeExpr

/-! ## Statements -/

/-- A parameter without comments in its type. -/
def Parameter.withoutComments (p : Parameter) : Parameter :=
  ⟨p.name, p.type.withoutComments⟩

/-- A function without its documentation. -/
def Function.withoutDocs (d : Function) : Function :=
  ⟨d.name, none, d.parameters.map Parameter.withoutComments, d.body⟩

/-- A statement without its documentation. -/
def Statement.withoutDocs : Statement → Statement
  | .interface d =>
    .interface ⟨d.name, none, TypeExpr.membersWithoutComments d.members,
      d.index.map TypeExpr.withoutComments⟩
  | .enumeration d => .enumeration ⟨d.name, none, d.members⟩
  | .alias d => .alias ⟨d.name, none, d.type.withoutComments⟩
  | .function d => .function d.withoutDocs
  | .importNames d => .importNames d

section Statement

variable {code rest : List Char}

theorem Interface.text_append (d : Interface) (r : List Char) :
    d.text.toList ++ r = (docCommentOf d.doc).toList ++ ("export ".toList ++
      (("interface " ++ d.name ++ " \x7b").toList ++ '\n' ::
        (TypeExpr.memberChars 1 d.members ++
          ((d.index.elim [] fun t => TypeExpr.indexHead 1 ++ t.chars 1 ++ [';', '\n']) ++
            '\x7d' :: '\n' :: r)))) := by
  cases hindex : d.index <;> simp [Interface.text, hindex]

theorem Enumeration.text_append (d : Enumeration) (r : List Char) :
    d.text.toList ++ r = (docCommentOf d.doc).toList ++ ("export ".toList ++
      (("enum " ++ d.name ++ " \x7b\n" ++ String.join (d.members.map EnumMember.text) ++
        "\x7d").toList ++ '\n' :: r)) := by
  simp [Enumeration.text]

theorem Alias.text_append (d : Alias) (r : List Char) :
    d.text.toList ++ r = (docCommentOf d.doc).toList ++ ("export ".toList ++
      (("type " ++ d.name ++ " = ").toList ++ (d.type.text.toList ++ ';' :: '\n' :: r))) := by
  simp [Alias.text]

theorem Function.text_append (d : Function) (r : List Char) :
    d.text.toList ++ r = (docCommentOf d.doc).toList ++ ("export ".toList ++
      (("function " ++ d.name ++ "(").toList ++
        ((joined ", " (d.parameters.map Parameter.text)).toList ++
          ((") \x7b\n  return " ++ expressionText d.body ++ ";\n\x7d").toList ++ '\n' :: r)))) := by
  simp [Function.text]

theorem Import.text_append (d : Import) (r : List Char) :
    d.text.toList ++ r = ((if d.typeOnly then "import type" else "import") ++ " \x7b " ++
        joined ", " d.names ++ " \x7d from " ++ stringLiteral d.source ++ ";").toList ++
      '\n' :: r := by
  simp [Import.text]

theorem commented_index (index : Option TypeExpr) (h : Commented true code rest) :
    Commented true
      (((index.map TypeExpr.withoutComments).elim [] fun t =>
        TypeExpr.indexHead 1 ++ t.chars 1 ++ [';', '\n']) ++ code)
      ((index.elim [] fun t => TypeExpr.indexHead 1 ++ t.chars 1 ++ [';', '\n']) ++ rest) := by
  cases index with
  | none => exact h
  | some t =>
    have hvalue := TypeExpr.commented_chars 1 t (.line false [';'] h)
    simpa using hvalue.append_left true (TypeExpr.indexHead 1)

theorem commented_parameters (ps : List Parameter) (h : Commented false code rest) :
    Commented false
      ((joined ", " ((ps.map Parameter.withoutComments).map Parameter.text)).toList ++ code)
      ((joined ", " (ps.map Parameter.text)).toList ++ rest) := by
  have hparameter : ∀ (p : Parameter) {code rest : List Char}, Commented false code rest →
      Commented false (p.withoutComments.text.toList ++ code) (p.text.toList ++ rest) := by
    intro p code rest h
    simpa [Parameter.text, Parameter.withoutComments] using
      (p.type.commented_text h).append_left false (p.name ++ ": ").toList
  induction ps with
  | nil => exact h
  | cons p ps ih =>
    cases ps with
    | nil => simpa [joined] using hparameter p h
    | cons q ps =>
      simpa [joined, String.intercalate_cons_cons] using
        hparameter p (ih.append_left false ", ".toList)

/-- **A printed statement is the statement without documentation, with comments put in**, at the
beginning of a line and up to the beginning of the next. -/
theorem Statement.commented_text (s : Statement) (h : Commented true code rest) :
    Commented true (s.withoutDocs.text.toList ++ code) (s.text.toList ++ rest) := by
  match s with
  | .interface d =>
    rw [withoutDocs, text, text, Interface.text_append, Interface.text_append]
    have hindex := commented_index d.index (.line true ['\x7d'] h)
    have hmembers := Commented.line false ("interface " ++ d.name ++ " \x7b").toList
      (TypeExpr.commented_memberChars 1 d.members hindex)
    exact .docCommentOf d.doc (hmembers.append_left true _)
  | .enumeration d =>
    rw [withoutDocs, text, text, Enumeration.text_append, Enumeration.text_append]
    exact .docCommentOf d.doc (.append_left true _ (.line false _ h))
  | .alias d =>
    rw [withoutDocs, text, text, Alias.text_append, Alias.text_append]
    have htype := d.type.commented_text (.line false [';'] h)
    exact .docCommentOf d.doc (.append_left true _ (.append_left false _ htype))
  | .function d =>
    rw [withoutDocs, text, text, Function.text_append, Function.text_append]
    exact .docCommentOf d.doc <| .append_left true _ <| .append_left false _ <|
      commented_parameters d.parameters (.line false _ h)
  | .importNames d =>
    rw [withoutDocs, text, Import.text_append, Import.text_append]
    exact .line true _ h

end Statement

/-! ## Modules -/

theorem Statement.isImport_withoutDocs (s : Statement) : s.withoutDocs.isImport = s.isImport := by
  cases s <;> rfl

/-- What separates a statement from the one before it leaves it at the beginning of a line. -/
theorem Module.commented_textAfter (previous : Statement) (ss : List Statement) :
    Commented true (textAfter previous.withoutDocs (ss.map Statement.withoutDocs)).toList
      (textAfter previous ss).toList := by
  induction ss generalizing previous with
  | nil => exact .refl true _
  | cons s ss ih =>
    have hstatement := s.commented_text (ih s)
    rw [List.map_cons, textAfter, textAfter, s.isImport_withoutDocs, previous.isImport_withoutDocs,
      String.toList_append, String.toList_append, String.toList_append, String.toList_append,
      List.append_assoc, List.append_assoc]
    split
    · exact hstatement
    · exact .line true [] hstatement

/-- **A printed module is the module without documentation, with comments put in.** -/
theorem Module.commented_text (m : Module) :
    Commented true (text (m.map Statement.withoutDocs)).toList (text m).toList := by
  cases m with
  | nil => exact .refl true _
  | cons s ss =>
    rw [List.map_cons, text, text, String.toList_append, String.toList_append]
    exact s.commented_text (commented_textAfter s ss)

end TypeScript

end TypedRequests
