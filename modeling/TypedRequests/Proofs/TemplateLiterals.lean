import Mathlib.Data.List.Chain
import TypedRequests.Proofs.Casing
import TypedRequests.Proofs.Placeholders

/-!
# What template literals stand for

An address with placeholders is printed as a template literal. Read back, it is the path cut at its
placeholders, each with its expression, unless the literal text of the path contains what has a
meaning in a template literal and is not escaped: a dollar sign before an opening brace, or a
carriage return.

* `TypeScript.IsName` : what may stand in a placeholder as a name.
* `TypeScript.templateText?`, `TypeScript.readTemplate?` : a reader of template literals.
* `TypeScript.templateText?_char` : escaped text is read back character by character.
* `TypeScript.templateText?_escapedText` : so it is if it opens no substitution, and otherwise there
  is nothing to be read, by `TypeScript.templateText?_escapedText_eq_none`.
* `PathTemplate.readTemplate?_of_noOpening`, `PathTemplate.readTemplate?_of_opening` : what is read
  for a path.
* `PathTemplate.template_reads_iff` : when it is the path.
-/

set_option autoImplicit false

namespace TypedRequests

open PathTemplate

namespace TypeScript

/-! ## Names -/

/-- The character may stand in a name: it is an ASCII letter or digit, an underscore or a dollar
sign, or it lies beyond ASCII. -/
def isNameChar (c : Char) : Bool :=
  Text.isWordChar c || c == '_' || c == '$'

/-- The text is made of characters of names. Every identifier is. -/
def IsName (s : String) : Prop :=
  s ≠ "" ∧ ∀ c ∈ s.toList, isNameChar c = true

instance : DecidablePred IsName := fun s =>
  decidable_of_iff (s ≠ "" ∧ s.toList.all isNameChar = true) (by rw [IsName, List.all_eq_true])

/-! ## Reading -/

/-- A text before the first literal text. -/
def addText (cs : List Char) (t : PathTemplate) : PathTemplate :=
  match t.segments with
  | [] => ⟨[], cs ++ t.last⟩
  | s :: ss => ⟨(cs ++ s.1, s.2) :: ss, t.last⟩

/-- A name before the first literal text. -/
def addName (name : List Char) (t : PathTemplate) : PathTemplate :=
  ⟨([], name) :: t.segments, t.last⟩

/-- The character that an escape in a template literal stands for, by the character behind its
backslash. -/
def templateEscape? (c : Char) : Option Char :=
  if c = '\\' ∨ c = backtick ∨ c = '$' ∨ c = '\x7b' then some c
  else if c = 'n' then some '\n'
  else if c = 'r' then some '\r'
  else none

mutual

/-- A template literal behind its opening backtick: its literal texts with the names that are
substituted between them, and what follows its closing backtick. A line end stands for a line feed,
whether it is written with a carriage return or not. -/
def templateText? : List Char → Option (PathTemplate × List Char)
  | [] => none
  | '\x60' :: cs => some (⟨[], []⟩, cs)
  | '\\' :: [] => none
  | '\\' :: c :: cs =>
    (templateEscape? c).bind fun v => (templateText? cs).map (Prod.map (addText [v]) id)
  | '$' :: '\x7b' :: cs => templateName? [] cs
  | '\r' :: '\n' :: cs => (templateText? cs).map (Prod.map (addText ['\n']) id)
  | '\r' :: cs => (templateText? cs).map (Prod.map (addText ['\n']) id)
  | c :: cs => (templateText? cs).map (Prod.map (addText [c]) id)

/-- The rest of a template literal in a substitution, of which `name` was read, backwards. Other
expressions than names are not substituted. -/
def templateName? (name : List Char) : List Char → Option (PathTemplate × List Char)
  | [] => none
  | c :: cs =>
    if c = '\x7d' then
      if name = [] then none else (templateText? cs).map (Prod.map (addName name.reverse) id)
    else if isNameChar c then templateName? (c :: name) cs
    else none

end

/-- A template literal and what follows it. -/
def readTemplate? : List Char → Option (PathTemplate × List Char)
  | [] => none
  | c :: cs => if c = backtick then templateText? cs else none

/-- A text as it is read in a template literal: its line ends are line feeds. -/
def lineFeeds : List Char → List Char
  | [] => []
  | '\r' :: '\n' :: cs => '\n' :: lineFeeds cs
  | '\r' :: cs => '\n' :: lineFeeds cs
  | c :: cs => c :: lineFeeds cs

/-- No dollar sign stands before an opening brace. -/
def NoOpening (cs : List Char) : Prop :=
  cs.IsChain fun a b => ¬(a = '$' ∧ b = '\x7b')

instance : DecidablePred NoOpening := fun cs =>
  inferInstanceAs (Decidable (cs.IsChain fun a b => ¬(a = '$' ∧ b = '\x7b')))

variable {c : Char} {cs rest : List Char}

theorem addText_addText (xs ys : List Char) (t : PathTemplate) :
    addText xs (addText ys t) = addText (xs ++ ys) t := by
  obtain ⟨segments, last⟩ := t
  cases segments <;> simp [addText]

theorem addText_nil (t : PathTemplate) : addText [] t = t := by
  obtain ⟨segments, last⟩ := t
  cases segments <;> rfl

/-! ## Escaped text -/

theorem escapedText_cons (c : Char) (cs : List Char) :
    escapedText (c :: cs) = escapedText [c] ++ escapedText cs := by
  simp [escapedText]

/-- A character that opens no substitution and ends no line with the next one is read by itself. -/
theorem templateText?_char (hopen : c = '$' → rest.head? ≠ some '\x7b')
    (hline : c = '\r' → rest.head? ≠ some '\n') :
    templateText? (escapedText [c] ++ rest) =
      (templateText? rest).map (Prod.map (addText (lineFeeds [c])) id) := by
  by_cases hescape : c = '\\' ∨ c = backtick
  · have hvalue : templateEscape? c = some c := by
      rw [templateEscape?, if_pos]
      tauto
    have hfeeds : lineFeeds [c] = [c] := by rcases hescape with rfl | rfl <;> rfl
    have hescaped : escapedText [c] = ['\\', c] := by simp [escapedText, hescape]
    rw [hescaped, hfeeds, List.cons_append, List.singleton_append, templateText?, hvalue]
    rfl
  · have hescaped : escapedText [c] = [c] := by simp [escapedText, hescape]
    rw [hescaped, List.singleton_append]
    by_cases hreturn : c = '\r'
    · subst hreturn
      rw [templateText?]
      · rfl
      · rintro cs rfl
        exact hline rfl rfl
    · have hfeeds : lineFeeds [c] = [c] := by
        rw [lineFeeds]
        · rfl
        · exact fun _ h _ => hreturn h
        · exact hreturn
      rw [hfeeds, templateText?]
      · exact fun h => hescape (Or.inr h)
      · exact fun h _ => hescape (Or.inl h)
      · exact fun _ _ h _ => hescape (Or.inl h)
      · rintro cs h rfl
        exact hopen h rfl
      · exact fun _ h _ => hreturn h
      · exact hreturn

/-- What an escaped text begins with, if it is no backslash. -/
theorem head?_escapedText_append (hc : c ≠ '\\')
    (h : (escapedText cs ++ rest).head? = some c) :
    cs.head? = some c ∨ cs = [] ∧ rest.head? = some c := by
  cases cs with
  | nil => exact Or.inr ⟨rfl, h⟩
  | cons d cs =>
    rw [escapedText_cons] at h
    by_cases hd : d = '\\' ∨ d = backtick
    · have hfirst : '\\' = c := by simpa [escapedText, hd] using h
      exact absurd hfirst.symm hc
    · have hfirst : d = c := by simpa [escapedText, hd] using h
      exact Or.inl (by rw [List.head?_cons, hfirst])

theorem NoOpening.tail (h : NoOpening (c :: cs)) : NoOpening cs :=
  List.IsChain.tail h

theorem noOpening_cons_iff :
    NoOpening (c :: cs) ↔ (c = '$' → cs.head? ≠ some '\x7b') ∧ NoOpening cs := by
  refine List.isChain_cons.trans (and_congr_left fun _ => ?_)
  exact ⟨fun h hc hd => h _ hd ⟨hc, rfl⟩, fun h d hd hcd => h hcd.1 (hcd.2 ▸ hd)⟩

theorem noOpening_of_not_mem (h : '\x7b' ∉ cs) : NoOpening cs := by
  induction cs with
  | nil => exact List.isChain_nil
  | cons c cs ih =>
    obtain ⟨_, hcs⟩ := not_or.1 (mt List.mem_cons.2 h)
    exact noOpening_cons_iff.2 ⟨fun _ hd => hcs (List.mem_of_mem_head? hd), ih hcs⟩

/-- What closes a text or opens a substitution goes on with no other text. -/
def EndsText (rest : List Char) : Prop :=
  rest.head? = some backtick ∨ rest.head? = some '$'

theorem head?_ne_of_endsText (hrest : EndsText rest) (hc : c ≠ '\\' ∧ c ≠ backtick ∧ c ≠ '$')
    (hcs : cs.head? ≠ some c) : (escapedText cs ++ rest).head? ≠ some c := by
  intro h
  rcases head?_escapedText_append hc.1 h with h | ⟨_, h⟩
  · exact hcs h
  · rcases hrest with hrest | hrest
    · exact hc.2.1 (Option.some.inj (h.symm.trans hrest))
    · exact hc.2.2 (Option.some.inj (h.symm.trans hrest))

theorem templateText?_crlf (rest : List Char) :
    templateText? ('\r' :: '\n' :: rest) =
      (templateText? rest).map (Prod.map (addText ['\n']) id) := by
  rw [templateText?]

theorem map_addText_map (xs ys : List Char) (read : Option (PathTemplate × List Char)) :
    (read.map (Prod.map (addText ys) id)).map (Prod.map (addText xs) id) =
      read.map (Prod.map (addText (xs ++ ys)) id) := by
  rw [Option.map_map]
  congr 1
  funext p
  exact Prod.ext (addText_addText xs ys p.1) rfl

/-- **Escaped text is read as a text**, if no substitution is opened in it. -/
theorem templateText?_escapedText (hcs : NoOpening cs) (hrest : EndsText rest) :
    templateText? (escapedText cs ++ rest) =
      (templateText? rest).map (Prod.map (addText (lineFeeds cs)) id) := by
  fun_induction lineFeeds cs with
  | case1 =>
    have hid : addText [] = id := funext addText_nil
    simp [escapedText, hid]
  | case2 cs ih =>
    have hcrlf : escapedText ('\r' :: '\n' :: cs) = '\r' :: '\n' :: escapedText cs := rfl
    rw [hcrlf, List.cons_append, List.cons_append, templateText?_crlf, ih hcs.tail.tail,
      map_addText_map]
    rfl
  | case3 cs hfeed ih =>
    have hhead : (escapedText cs ++ rest).head? ≠ some '\n' := by
      refine head?_ne_of_endsText hrest (by decide) fun h => ?_
      obtain ⟨tail, rfl⟩ := List.head?_eq_some_iff.1 h
      exact hfeed tail rfl
    rw [escapedText_cons, List.append_assoc,
      templateText?_char (fun h => absurd h (by decide)) fun _ => hhead, ih hcs.tail,
      map_addText_map]
    rfl
  | case4 c cs hcrlf hreturn ih =>
    obtain ⟨hopen, htail⟩ := noOpening_cons_iff.1 hcs
    have hfeeds : lineFeeds [c] = [c] := by
      rw [lineFeeds]
      · rfl
      · exact fun _ h _ => hreturn h
      · exact hreturn
    have hhead : c = '$' → (escapedText cs ++ rest).head? ≠ some '\x7b' := fun hc =>
      head?_ne_of_endsText hrest (by decide) (hopen hc)
    rw [escapedText_cons, List.append_assoc, templateText?_char hhead fun h => absurd h hreturn,
      ih htail, map_addText_map, hfeeds, List.singleton_append]

/-! ## Substitutions -/

/-- A name is read up to the brace that closes its substitution. -/
theorem templateName?_append {name : List Char} (hne : name ≠ [] ∨ cs ≠ [])
    (hcs : ∀ c ∈ cs, isNameChar c = true) :
    templateName? name (cs ++ '\x7d' :: rest) =
      (templateText? rest).map (Prod.map (addName (name.reverse ++ cs)) id) := by
  induction cs generalizing name with
  | nil =>
    rw [List.nil_append, templateName?, if_pos rfl, if_neg (hne.resolve_right (· rfl)),
      List.append_nil]
  | cons c cs ih =>
    obtain ⟨hc, hcs⟩ := List.forall_mem_cons.1 hcs
    have hbrace : c ≠ '\x7d' := by
      rintro rfl
      exact absurd hc (by decide)
    rw [List.cons_append, templateName?, if_neg hbrace, if_pos hc,
      ih (Or.inl (List.cons_ne_nil _ _)) hcs, List.reverse_cons, List.append_assoc,
      List.singleton_append]

theorem templateText?_substitution {expression : String} (h : IsName expression)
    (rest : List Char) : templateText? (substitution expression ++ rest) =
      (templateText? rest).map (Prod.map (addName expression.toList) id) := by
  have hne : expression.toList ≠ [] := fun he => h.1 (String.toList_inj.1 he)
  have hchars : substitution expression ++ rest =
      '$' :: '\x7b' :: (expression.toList ++ '\x7d' :: rest) := by
    simp [substitution]
  rw [hchars, templateText?, templateName?_append (Or.inr hne) h.2, List.reverse_nil,
    List.nil_append]

/-- A substitution that is not closed is none. -/
theorem templateName?_eq_none {name : List Char} (h : '\x7d' ∉ cs) :
    templateName? name cs = none := by
  induction cs generalizing name with
  | nil => rw [templateName?]
  | cons c cs ih =>
    obtain ⟨hc, hcs⟩ := not_or.1 (mt List.mem_cons.2 h)
    rw [templateName?, if_neg (Ne.symm hc)]
    split
    · exact ih hcs
    · rfl

theorem mem_of_mem_escapedText (hc : c ∈ escapedText cs) : c = '\\' ∨ c ∈ cs := by
  obtain ⟨d, hd, hcd⟩ := List.mem_flatMap.1 hc
  split at hcd
  · rcases List.mem_cons.1 hcd with rfl | hcd
    · exact Or.inl rfl
    · exact Or.inr (List.mem_singleton.1 hcd ▸ hd)
  · exact Or.inr (List.mem_singleton.1 hcd ▸ hd)

/-- **A text that opens a substitution without closing it leaves no template literal.** -/
theorem templateText?_escapedText_eq_none (hopen : ¬ NoOpening cs) (hcs : NoPlaceholder cs) :
    templateText? (escapedText cs ++ [backtick]) = none := by
  have hends : EndsText [backtick] := Or.inl rfl
  fun_induction lineFeeds cs with
  | case1 => exact absurd List.isChain_nil hopen
  | case2 cs ih =>
    have hcrlf : escapedText ('\r' :: '\n' :: cs) = '\r' :: '\n' :: escapedText cs := rfl
    have htail : ¬ NoOpening cs := fun h => hopen <| noOpening_cons_iff.2
      ⟨fun h => absurd h (by decide), noOpening_cons_iff.2 ⟨fun h => absurd h (by decide), h⟩⟩
    rw [hcrlf, List.cons_append, List.cons_append, templateText?_crlf, ih htail hcs.tail.tail]
    rfl
  | case3 cs hfeed ih =>
    have hhead : (escapedText cs ++ [backtick]).head? ≠ some '\n' := by
      refine head?_ne_of_endsText hends (by decide) fun h => ?_
      obtain ⟨tail, rfl⟩ := List.head?_eq_some_iff.1 h
      exact hfeed tail rfl
    have htail : ¬ NoOpening cs := fun h => hopen <|
      noOpening_cons_iff.2 ⟨fun h => absurd h (by decide), h⟩
    rw [escapedText_cons, List.append_assoc,
      templateText?_char (fun h => absurd h (by decide)) fun _ => hhead, ih htail hcs.tail]
    rfl
  | case4 c cs hcrlf hreturn ih =>
    by_cases hfirst : c = '$' ∧ cs.head? = some '\x7b'
    · obtain ⟨rfl, hbrace⟩ := hfirst
      obtain ⟨after, rfl⟩ := List.head?_eq_some_iff.1 hbrace
      have hclose : '\x7d' ∉ escapedText after ++ [backtick] := by
        intro h
        rcases List.mem_append.1 h with h | h
        · rcases mem_of_mem_escapedText h with h | h
          · exact absurd h (by decide)
          · exact hcs ['$'] after rfl h
        · exact absurd h (by decide)
      have hchars : escapedText ('$' :: '\x7b' :: after) ++ [backtick] =
          '$' :: '\x7b' :: (escapedText after ++ [backtick]) := rfl
      rw [hchars, templateText?, templateName?_eq_none hclose]
    · have htail : ¬ NoOpening cs := fun h => hopen <|
        noOpening_cons_iff.2 ⟨fun hc hbrace => hfirst ⟨hc, hbrace⟩, h⟩
      have hhead : c = '$' → (escapedText cs ++ [backtick]).head? ≠ some '\x7b' := fun hc =>
        head?_ne_of_endsText hends (by decide) fun hbrace => hfirst ⟨hc, hbrace⟩
      rw [escapedText_cons, List.append_assoc, templateText?_char hhead fun h => absurd h hreturn,
        ih htail hcs.tail]
      rfl

/-- A text has only line feeds for line ends exactly if it has no carriage return. -/
theorem lineFeeds_eq_self_iff : lineFeeds cs = cs ↔ '\r' ∉ cs := by
  fun_induction lineFeeds cs with
  | case1 => simp
  | case2 cs _ => simp
  | case3 cs _ _ => simp
  | case4 c cs _ hreturn ih => simp [ih, Ne.symm (a := c) hreturn]

end TypeScript

namespace PathTemplate

open TypeScript

variable {t : PathTemplate} {expression : String → String}

/-! ## Addresses -/

/-- The pieces of a path with expressions for the names of its placeholders. -/
def filled (t : PathTemplate) (expression : String → String) : PathTemplate :=
  ⟨t.segments.map fun s => (s.1, (expression (String.ofList s.2)).toList), t.last⟩

/-- The pieces of a path with line feeds for line ends. -/
def withLineFeeds (t : PathTemplate) : PathTemplate :=
  ⟨t.segments.map fun s => (lineFeeds s.1, s.2), lineFeeds t.last⟩

/-- Nothing in the literal text of the path has a meaning in a template literal that is not
escaped. -/
structure Verbatim (t : PathTemplate) : Prop where
  opening : NoOpening t.last
  last : '\r' ∉ t.last
  texts : ∀ s ∈ t.segments, '\r' ∉ s.1

theorem placeholders_filled :
    (t.filled expression).placeholders = t.placeholders.map expression := by
  simp [filled, placeholders]

theorem placeholders_withLineFeeds : t.withLineFeeds.placeholders = t.placeholders := by
  simp [withLineFeeds, placeholders]

/-- Only carriage returns are read as something else. -/
theorem filled_withLineFeeds_iff :
    t.withLineFeeds.filled expression = t.filled expression ↔
      '\r' ∉ t.last ∧ ∀ s ∈ t.segments, '\r' ∉ s.1 := by
  simp only [filled, withLineFeeds, List.map_map, mk.injEq, List.map_inj_left, Function.comp_apply,
    Prod.mk.injEq, and_true, lineFeeds_eq_self_iff]
  exact and_comm

/-- A literal text with a substitution behind it is read as a segment. -/
theorem templateText?_segment {text rest : List Char} {name : String} (htext : '\x7b' ∉ text)
    (hname : IsName name) :
    templateText? (escapedText text ++ substitution name ++ rest) =
      (templateText? rest).map (Prod.map (fun t =>
        ⟨(lineFeeds text, name.toList) :: t.segments, t.last⟩) id) := by
  have hends : EndsText (substitution name ++ rest) := Or.inr rfl
  rw [List.append_assoc, templateText?_escapedText (noOpening_of_not_mem htext) hends,
    templateText?_substitution hname, Option.map_map]
  congr 1
  funext p
  exact Prod.ext (by simp [addText, addName]) rfl

/-- **The segments of a path are read one after the other.** -/
theorem templateText?_segments {segments : List (List Char × List Char)} {rest : List Char}
    (htexts : ∀ s ∈ segments, '\x7b' ∉ s.1)
    (hnames : ∀ s ∈ segments, IsName (expression (String.ofList s.2))) :
    templateText? ((segments.flatMap fun s =>
        escapedText s.1 ++ substitution (expression (String.ofList s.2))) ++ rest) =
      (templateText? rest).map (Prod.map (fun t => ⟨(segments.map fun s =>
        (lineFeeds s.1, (expression (String.ofList s.2)).toList)) ++ t.segments, t.last⟩) id) := by
  induction segments with
  | nil =>
    rw [List.flatMap_nil, List.nil_append]
    exact Option.map_id'.symm
  | cons s segments ih =>
    obtain ⟨htext, htexts⟩ := List.forall_mem_cons.1 htexts
    obtain ⟨hname, hnames⟩ := List.forall_mem_cons.1 hnames
    rw [List.flatMap_cons, List.append_assoc, templateText?_segment htext hname, ih htexts hnames,
      Option.map_map]
    rfl

variable {path : String}

/-- What is read for a path depends on its last literal text. -/
theorem readTemplate?_urlTemplate
    (h : ∀ name ∈ (ofPath path).placeholders, IsName (expression name)) :
    readTemplate? ((ofPath path).urlTemplate expression).toList =
      (templateText? (escapedText (ofPath path).last ++ [backtick])).map (Prod.map (fun t =>
        ⟨((ofPath path).withLineFeeds.filled expression).segments ++ t.segments, t.last⟩) id) := by
  have hcuts := cuts_ofPath path
  have hnames : ∀ s ∈ (ofPath path).segments, IsName (expression (String.ofList s.2)) :=
    fun s hs => h _ (List.mem_map_of_mem hs)
  rw [urlTemplate, String.toList_ofList, List.cons_append, List.cons_append, readTemplate?,
    if_pos rfl, List.append_assoc, templateText?_segments hcuts.texts hnames]
  simp only [filled, withLineFeeds, List.map_map]
  rfl

/-- **An address is read as the path with line feeds**, if no substitution is opened behind the last
placeholder. -/
theorem readTemplate?_of_noOpening
    (h : ∀ name ∈ (ofPath path).placeholders, IsName (expression name))
    (hlast : NoOpening (ofPath path).last) :
    readTemplate? ((ofPath path).urlTemplate expression).toList =
      some ((ofPath path).withLineFeeds.filled expression, []) := by
  rw [readTemplate?_urlTemplate h, templateText?_escapedText hlast (Or.inl rfl)]
  simp [templateText?, backtick, addText, filled, withLineFeeds]

/-- **Otherwise there is no template literal.** -/
theorem readTemplate?_of_opening
    (h : ∀ name ∈ (ofPath path).placeholders, IsName (expression name))
    (hlast : ¬ NoOpening (ofPath path).last) :
    readTemplate? ((ofPath path).urlTemplate expression).toList = none := by
  rw [readTemplate?_urlTemplate h, templateText?_escapedText_eq_none hlast (cuts_ofPath path).last]
  rfl

/-- **What a template literal for a path stands for.** The path is cut at its placeholders. If every
placeholder has a name for its expression, the literal is read as the literal texts of the path with
these names between them exactly if the path is verbatim. Otherwise its line ends are read as line
feeds, or, if a substitution is opened behind the last placeholder, there is no literal at all. -/
theorem template_reads_iff (path : String) {expression : String → String}
    (h : ∀ name ∈ (ofPath path).placeholders, IsName (expression name)) :
    Cuts path.toList (ofPath path) ∧
    (readTemplate? ((ofPath path).urlTemplate expression).toList =
      some ((ofPath path).filled expression, []) ↔ (ofPath path).Verbatim) ∧
    (NoOpening (ofPath path).last →
      readTemplate? ((ofPath path).urlTemplate expression).toList =
        some ((ofPath path).withLineFeeds.filled expression, [])) ∧
    (¬ NoOpening (ofPath path).last →
      readTemplate? ((ofPath path).urlTemplate expression).toList = none) := by
  refine ⟨cuts_ofPath path, ⟨fun hread => ?_, fun hverbatim => ?_⟩, readTemplate?_of_noOpening h,
    readTemplate?_of_opening h⟩
  · have hlast : NoOpening (ofPath path).last := by
      by_contra hlast
      rw [readTemplate?_of_opening h hlast] at hread
      cases hread
    rw [readTemplate?_of_noOpening h hlast] at hread
    obtain ⟨hend, htexts⟩ := filled_withLineFeeds_iff.1 (Prod.mk.inj (Option.some.inj hread)).1
    exact ⟨hlast, hend, htexts⟩
  · rw [readTemplate?_of_noOpening h hverbatim.opening,
      filled_withLineFeeds_iff.2 ⟨hverbatim.last, hverbatim.texts⟩]

/-- A path whose literal texts contain what has a meaning in a template literal. -/
def troublesomePath : String :=
  "/a\\\x60$\x7bid\x7d/$\x7d\x7b"

theorem verbatim_troublesomePath : (ofPath troublesomePath).Verbatim :=
  ⟨by decide +kernel, by decide +kernel, by decide +kernel⟩

/-- What has a meaning in a template literal stands for itself in the address of a path. -/
theorem template_reads_troublesome :
    (∀ name ∈ (ofPath troublesomePath).placeholders, IsName (id name)) ∧
    (ofPath troublesomePath).Verbatim ∧
    (ofPath troublesomePath).urlTemplate id =
      "\x60/a\\\\\\\x60$$\x7bid\x7d/$\x7d\x7b\x60" ∧
    readTemplate? ((ofPath troublesomePath).urlTemplate id).toList =
      some (⟨[("/a\\\x60$".toList, "id".toList)], "/$\x7d\x7b".toList⟩, []) := by
  have hnames : ∀ name ∈ (ofPath troublesomePath).placeholders, IsName (id name) := by
    decide +kernel
  exact ⟨hnames, verbatim_troublesomePath, by decide +kernel,
    (template_reads_iff troublesomePath hnames).2.1.2 verbatim_troublesomePath⟩

/-- A substitution is opened by the path itself and never closed, and a carriage return is read as a
line feed. -/
theorem template_misread :
    (ofPath "/pets/\x7bid\x7d/$\x7bx").urlTemplate id = "\x60/pets/$\x7bid\x7d/$\x7bx\x60" ∧
    readTemplate? ((ofPath "/pets/\x7bid\x7d/$\x7bx").urlTemplate id).toList = none ∧
    (ofPath "/pets\r/\x7bid\x7d").filled id =
      ⟨[("/pets\r/".toList, "id".toList)], []⟩ ∧
    readTemplate? ((ofPath "/pets\r/\x7bid\x7d").urlTemplate id).toList =
      some (⟨[("/pets\n/".toList, "id".toList)], []⟩, []) := by
  decide +kernel

end PathTemplate

end TypedRequests
