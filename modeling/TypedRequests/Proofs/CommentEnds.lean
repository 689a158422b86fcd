import Mathlib.Data.List.Chain
import TypedRequests.TypeScript.Comment

/-!
# Where a comment ends

Whatever text is documented, the comment on it ends at its first end mark: none stands in its lines,
and none arises where they are joined. Printed code behind a comment is therefore code, and text
inside of it is not.

* `NoEnd` : no end mark stands in a text.
* `noEnd_replaceAll`, `noEnd_of_mem_commentLines` : escaping leaves none in the text, nor does
  cutting it into lines.
* `completeComment_commentOfLines` : none arises in the comment before its own.
* `NoEnd.append_inj` : two texts up to their first end mark are the same if they begin alike.
* `docComment_eq` : a comment is nothing, or ends at its first end mark.
-/

set_option autoImplicit false

namespace TypedRequests

namespace Text

/-! ## Pieces of texts -/

/-- The pieces of a text: the first one begins it, and the others stand in it. -/
theorem splitOn_isInfix (separator : Char) (cs : List Char) :
    ∃ piece pieces, splitOn separator cs = piece :: pieces ∧ piece <+: cs ∧
      ∀ q ∈ pieces, q <:+: cs := by
  induction cs with
  | nil => exact ⟨[], [], rfl, List.prefix_rfl, nofun⟩
  | cons c cs ih =>
    obtain ⟨piece, pieces, hsplit, hpiece, hpieces⟩ := ih
    unfold splitOn
    rw [hsplit]
    split
    · refine ⟨[], piece :: pieces, rfl, List.nil_prefix, fun q hq => ?_⟩
      rcases List.mem_cons.1 hq with rfl | hq
      · exact hpiece.isInfix.trans (List.suffix_cons c cs).isInfix
      · exact (hpieces q hq).trans (List.suffix_cons c cs).isInfix
    · refine ⟨c :: piece, pieces, rfl, List.cons_prefix_cons.2 ⟨rfl, hpiece⟩, fun q hq => ?_⟩
      exact (hpieces q hq).trans (List.suffix_cons c cs).isInfix

theorem infix_of_mem_splitOn {separator : Char} {cs piece : List Char}
    (h : piece ∈ splitOn separator cs) : piece <:+: cs := by
  obtain ⟨first, others, hsplit, hfirst, hothers⟩ := splitOn_isInfix separator cs
  rw [hsplit] at h
  rcases List.mem_cons.1 h with rfl | h
  · exact hfirst.isInfix
  · exact hothers piece h

theorem chomp_isPrefix (line : List Char) : chomp line <+: line := by
  unfold chomp
  split
  · exact List.dropLast_prefix line
  · exact List.prefix_rfl

theorem trimEnd_isPrefix (cs : List Char) : trimEnd cs <+: cs := by
  have hsuffix : cs.reverse.dropWhile isBlank <:+ cs.reverse := List.dropWhile_suffix _
  exact List.reverse_suffix.1 (by simpa [trimEnd, dropRightWhile] using hsuffix)

theorem infix_of_mem_linesOfPieces {pieces : List (List Char)} {line : List Char}
    (h : line ∈ linesOfPieces pieces) : ∃ piece ∈ pieces, line <:+: piece := by
  induction pieces with
  | nil => cases h
  | cons piece pieces ih =>
    cases pieces with
    | nil =>
      rw [linesOfPieces] at h
      split at h
      · cases h
      · exact ⟨piece, List.mem_cons_self .., (List.mem_singleton.1 h) ▸ List.infix_rfl⟩
    | cons second rest =>
      rw [linesOfPieces] at h
      · rcases List.mem_cons.1 h with rfl | h
        · exact ⟨piece, List.mem_cons_self .., (chomp_isPrefix piece).isInfix⟩
        · obtain ⟨q, hq, hline⟩ := ih h
          exact ⟨q, List.mem_cons_of_mem _ hq, hline⟩
      · simp

/-- Every line of a text stands in it. -/
theorem infix_of_mem_lines {cs line : List Char} (h : line ∈ lines cs) : line <:+: cs := by
  obtain ⟨piece, hpiece, hline⟩ := infix_of_mem_linesOfPieces h
  exact hline.trans (infix_of_mem_splitOn hpiece)

end Text

namespace TypeScript

open Text

/-! ## End marks -/

/-- No end mark of a comment stands in the text: no slash follows a star. -/
def NoEnd (cs : List Char) : Prop :=
  cs.IsChain fun a b => ¬(a = '*' ∧ b = '/')

instance : DecidablePred NoEnd := fun cs =>
  inferInstanceAs (Decidable (cs.IsChain fun a b => ¬(a = '*' ∧ b = '/')))

variable {xs ys : List Char}

theorem NoEnd.append_of_last (hx : NoEnd xs) (hy : NoEnd ys) (h : xs.getLast? ≠ some '*') :
    NoEnd (xs ++ ys) := by
  refine List.isChain_append.2 ⟨hx, hy, fun a ha b _ hab => h ?_⟩
  rw [← hab.1]
  exact ha

theorem NoEnd.append_of_head (hx : NoEnd xs) (hy : NoEnd ys) (h : ys.head? ≠ some '/') :
    NoEnd (xs ++ ys) := by
  refine List.isChain_append.2 ⟨hx, hy, fun a _ b hb hab => h ?_⟩
  rw [← hab.2]
  exact hb

theorem noEnd_of_forall_ne (h : ∀ c ∈ xs, c ≠ '*') : NoEnd xs := by
  induction xs with
  | nil => exact List.isChain_nil
  | cons c cs ih =>
    obtain ⟨hc, hcs⟩ := List.forall_mem_cons.1 h
    exact List.isChain_cons.2 ⟨fun _ _ hab => hc hab.1, ih hcs⟩

/-- **What stands before the first end mark is determined by the whole text.** -/
theorem NoEnd.append_inj {r s : List Char} (hx : NoEnd (xs ++ ['*'])) (hy : NoEnd (ys ++ ['*']))
    (h : xs ++ '*' :: '/' :: r = ys ++ '*' :: '/' :: s) : xs = ys ∧ r = s := by
  -- whichever text is longer has no room for the end mark of the other
  have hshort : ∀ {zs tail r s : List Char}, NoEnd (zs ++ tail ++ ['*']) →
      '*' :: '/' :: r = tail ++ '*' :: '/' :: s → tail = [] := by
    intro zs tail r s hz he
    rcases tail with _ | ⟨a, _ | ⟨b, tail⟩⟩
    · rfl
    · exact absurd (List.cons.inj (List.cons.inj he).2).1 (by decide)
    · obtain ⟨rfl, htail⟩ := List.cons.inj he
      obtain ⟨rfl, -⟩ := List.cons.inj htail
      have hpair : ['*', '/'] <:+: zs ++ '*' :: '/' :: tail ++ ['*'] :=
        ⟨zs, tail ++ ['*'], by simp⟩
      exact absurd ⟨rfl, rfl⟩ (List.isChain_pair.1 <| List.IsChain.infix hz hpair)
  rcases List.append_eq_append_iff.1 h with ⟨tail, rfl, he⟩ | ⟨tail, rfl, he⟩
  · obtain rfl := hshort hy he
    exact ⟨(List.append_nil xs).symm, by simpa using he⟩
  · obtain rfl := hshort hx he
    exact ⟨List.append_nil ys, by simpa using he.symm⟩

/-! ## Lines of comments -/

theorem head?_replaceAll (cs : List Char) :
    (replaceAll ['*', '/'] ['*', '\\', '/'] cs).head? = cs.head? := by
  cases cs with
  | nil => simp [replaceAll, replaceNonempty]
  | cons c cs =>
    rw [replaceAll, replaceNonempty]
    split
    · rename_i hstrip
      obtain ⟨rfl, -⟩ := List.cons.inj (stripPrefix?_eq_some_iff.1 hstrip)
      rfl
    · rfl

/-- **Escaping leaves no end mark in a text**, and makes none. -/
theorem noEnd_replaceAll (cs : List Char) : NoEnd (replaceAll ['*', '/'] ['*', '\\', '/'] cs) := by
  rw [replaceAll]
  fun_induction replaceNonempty '*' ['/'] ['*', '\\', '/'] cs with
  | case1 => exact List.isChain_nil
  | case2 c cs rest _ ih =>
    have hnew : NoEnd ['*', '\\', '/'] := by decide
    exact hnew.append_of_last ih (by decide)
  | case3 c cs hstrip ih =>
    refine List.isChain_cons.2 ⟨fun b hb hab => ?_, ih⟩
    obtain ⟨rfl, rfl⟩ := hab
    -- the slash stood behind the star before, and so it would have been escaped
    have hhead : cs.head? = some '/' := by rw [← head?_replaceAll cs]; exact hb
    obtain ⟨tail, rfl⟩ := List.head?_eq_some_iff.1 hhead
    have hfound : stripPrefix? ['*', '/'] ('*' :: '/' :: tail) = some tail :=
      stripPrefix?_eq_some_iff.2 rfl
    rw [hfound] at hstrip
    cases hstrip

theorem noEnd_of_mem_commentLines {text line : List Char} (h : line ∈ commentLines text) :
    NoEnd line := by
  obtain ⟨l, hl, rfl⟩ := List.mem_map.1 h
  exact List.IsChain.infix (noEnd_replaceAll _)
    ((trimEnd_isPrefix l).isInfix.trans (infix_of_mem_lines hl))

/-! ## Comments -/

variable {indent : List Char}

theorem noEnd_starredLine (hindent : ∀ c ∈ indent, c = ' ') {line : List Char}
    (hline : NoEnd line) : NoEnd (starredLine indent line) := by
  have hspaces : NoEnd indent := noEnd_of_forall_ne fun c hc => by rw [hindent c hc]; decide
  have hend : NoEnd [' ', '*', '\n'] := by decide
  have hstar : NoEnd [' ', '*', ' '] := by decide
  have hfeed : NoEnd ['\n'] := List.isChain_singleton _
  unfold starredLine
  split
  · exact hspaces.append_of_head hend (by decide)
  · refine ((hspaces.append_of_head hstar (by decide)).append_of_last hline ?_).append_of_head
      hfeed (by decide)
    simp

theorem getLast?_starredLine (indent line : List Char) :
    (starredLine indent line).getLast? = some '\n' := by
  unfold starredLine
  split
  · simp
  · exact List.getLast?_concat

theorem noEnd_flatMap_starredLine (hindent : ∀ c ∈ indent, c = ' ') {ls : List (List Char)}
    (hls : ∀ l ∈ ls, NoEnd l) : NoEnd (ls.flatMap (starredLine indent)) := by
  induction ls with
  | nil => exact List.isChain_nil
  | cons l ls ih =>
    obtain ⟨hl, hls⟩ := List.forall_mem_cons.1 hls
    rw [List.flatMap_cons]
    exact (noEnd_starredLine hindent hl).append_of_last (ih hls) (by
      rw [getLast?_starredLine]
      decide)

/-- The text is one comment behind an indentation: it is opened by a slash and two stars, the first
end mark behind them ends it, and a line feed follows. -/
def CompleteComment (indent cs : List Char) : Prop :=
  ∃ body, cs = indent ++ '/' :: '*' :: '*' :: (body ++ ['*', '/', '\n']) ∧
    NoEnd ('*' :: (body ++ ['*']))

/-- **A comment has its end mark at its end and nowhere before.** -/
theorem completeComment_commentOfLines (hindent : ∀ c ∈ indent, c = ' ') {ls : List (List Char)}
    (hne : ls ≠ []) (hls : ∀ l ∈ ls, NoEnd l) :
    CompleteComment indent (commentOfLines indent ls) := by
  have hspaces : NoEnd indent := noEnd_of_forall_ne fun c hc => by rw [hindent c hc]; decide
  rcases ls with _ | ⟨first, _ | ⟨second, rest⟩⟩
  · exact absurd rfl hne
  · refine ⟨[' '] ++ first ++ [' '], by simp [commentOfLines], ?_⟩
    have hopen : NoEnd ['*', ' '] := by decide
    have hclose : NoEnd [' ', '*'] := by decide
    have hline := hopen.append_of_last (hls first (List.mem_cons_self ..)) (by decide)
    simpa using hline.append_of_head hclose (by decide)
  · refine ⟨['\n'] ++ (first :: second :: rest).flatMap (starredLine indent) ++ indent ++ [' '],
      by simp [commentOfLines], ?_⟩
    have hopen : NoEnd ['*', '\n'] := by decide
    have hclose : NoEnd [' ', '*'] := by decide
    have hlines := hopen.append_of_last (noEnd_flatMap_starredLine hindent hls) (by decide)
    have hmargin : NoEnd (indent ++ [' ', '*']) := hspaces.append_of_head hclose (by decide)
    have hhead : (indent ++ [' ', '*']).head? ≠ some '/' := by
      cases indent with
      | nil => decide
      | cons c cs => simp [hindent c (List.mem_cons_self ..)]
    have hbody := hlines.append_of_head hmargin hhead
    simpa [List.append_assoc] using hbody

/-- A comment is nothing, or it begins with its start mark and ends at the first end mark. -/
theorem docComment_eq (hindent : ∀ c ∈ indent, c = ' ') (text : String) :
    (docComment (String.ofList indent) text).toList = [] ∨
      ∃ body, (docComment (String.ofList indent) text).toList =
        indent ++ '/' :: '*' :: (body ++ ['*', '/', '\n']) ∧ NoEnd (body ++ ['*']) := by
  rw [docComment, String.toList_ofList, String.toList_ofList]
  by_cases hlines : commentLines text.toList = []
  · rw [hlines]
    exact Or.inl rfl
  · obtain ⟨body, hbody, hend⟩ := completeComment_commentOfLines hindent hlines
      fun l hl => noEnd_of_mem_commentLines hl
    exact Or.inr ⟨'*' :: body, hbody, hend⟩

end TypeScript

end TypedRequests
