import TypedRequests.Proofs.PrintedScalars

/-!
# Reading JSON values that were printed

A value that is printed on many lines is read again as it was, if each of its numbers is read as it
is printed and it is not nested too deep.

* `Json.Survives`, `Json.depth` : what is printed is read as it was, and how deep it is nested.
* `Json.tokens`, `scan_pretty` : the tokens of a printed value.
* `JsonReader.run_tokens` : what the reader makes of them.
* `ofJsonText?_pretty` : a printed value is read as it was.
-/

set_option autoImplicit false

namespace TypedRequests

/-! ## Values -/

namespace Json

/-! ### Scalars and depth of values -/

mutual

/-- Every scalar in the value is read as it is printed. -/
def Survives : Json → Prop
  | scalar s => s.Survives
  | array items => ItemsSurvive items
  | object members => MembersSurvive members

/-- Every scalar in the items is read as it is printed. -/
def ItemsSurvive : List Json → Prop
  | [] => True
  | v :: vs => v.Survives ∧ ItemsSurvive vs

/-- Every scalar in the members is read as it is printed. -/
def MembersSurvive : List (String × Json) → Prop
  | [] => True
  | (_, v) :: ms => v.Survives ∧ MembersSurvive ms

end

mutual

/-- How deep arrays and objects are nested. -/
def depth : Json → Nat
  | scalar _ => 0
  | array items => itemsDepth items + 1
  | object members => membersDepth members + 1

/-- The greatest depth of the items. -/
def itemsDepth : List Json → Nat
  | [] => 0
  | v :: vs => max v.depth (itemsDepth vs)

/-- The greatest depth of the members. -/
def membersDepth : List (String × Json) → Nat
  | [] => 0
  | (_, v) :: ms => max v.depth (membersDepth ms)

end

/-! ### Tokens -/

mutual

/-- The tokens of the text of a value. -/
def tokens : Json → List JsonToken
  | scalar s => [s.token]
  | array items => .openList :: (itemTokens items ++ [.closeList])
  | object members => .openRecord :: (memberTokens members ++ [.closeRecord])

/-- The tokens of the texts of items, with commas between. -/
def itemTokens : List Json → List JsonToken
  | [] => []
  | [v] => v.tokens
  | v :: w :: vs => v.tokens ++ .comma :: itemTokens (w :: vs)

/-- The tokens of the texts of members, with commas between. -/
def memberTokens : List (String × Json) → List JsonToken
  | [] => []
  | [(name, v)] => .string (some name) :: .colon :: v.tokens
  | (name, v) :: m :: ms =>
    .string (some name) :: .colon :: (v.tokens ++ .comma :: memberTokens (m :: ms))

end

end Json

namespace JsonToken

variable {cs cs' : List Char} {ts ts' : List JsonToken}

/-- The text has the tokens, whatever follows. -/
def Begins (cs : List Char) (ts : List JsonToken) : Prop :=
  ∀ rest, scan (cs ++ rest) = (scan rest).map (ts ++ ·)

/-- The text has the tokens, if what follows does not go on with a number. -/
def Scans (cs : List Char) (ts : List JsonToken) : Prop :=
  ∀ rest, Closed rest → scan (cs ++ rest) = (scan rest).map (ts ++ ·)

/-- The text is not empty and does not go on with a number. -/
def Closing (cs : List Char) : Prop :=
  ∀ rest, Closed (cs ++ rest)

theorem map_append_map (ts ts' : List JsonToken) (o : Option (List JsonToken)) :
    (o.map (ts' ++ ·)).map (ts ++ ·) = o.map ((ts ++ ts') ++ ·) := by
  rw [Option.map_map]
  exact congrArg (Option.map · o) (funext fun us => (List.append_assoc ts ts' us).symm)

theorem Begins.scans (h : Begins cs ts) : Scans cs ts :=
  fun rest _ => h rest

theorem Begins.append (h : Begins cs ts) (h' : Scans cs' ts') : Scans (cs ++ cs') (ts ++ ts') := by
  intro rest hrest
  rw [List.append_assoc, h, h' rest hrest, map_append_map]

theorem Scans.append (h : Scans cs ts) (hc : Closing cs') (h' : Scans cs' ts') :
    Scans (cs ++ cs') (ts ++ ts') := by
  intro rest hrest
  rw [List.append_assoc, h _ (hc rest), h' rest hrest, map_append_map]

theorem begins_newLine (depth : Nat) : Begins (Json.newLine depth) [] := by
  intro rest
  have hspaces : ∀ c ∈ Json.newLine depth, isSpace c = true := by
    intro c hc
    rcases List.mem_cons.1 hc with rfl | hc
    · rfl
    · rw [List.eq_of_mem_replicate hc]
      rfl
  rw [scan_spaces hspaces]
  cases scan rest <;> rfl

theorem closing_newLine (depth : Nat) (cs : List Char) : Closing (Json.newLine depth ++ cs) := by
  intro rest c hc
  obtain rfl := Option.some.inj hc
  decide

theorem begins_of_scanToken {t : JsonToken} (h : ∀ rest, scanToken (cs ++ rest) = some (t, rest)) :
    Begins cs [t] :=
  fun rest => scan_of_scanToken (h rest)

theorem begins_comma : Begins [','] [.comma] :=
  begins_of_scanToken fun _ => rfl

theorem begins_name (name : String) :
    Begins (Scalar.stringText name ++ [':', ' ']) [.string (some name), .colon] := by
  intro rest
  rw [List.append_assoc, scan_of_scanToken (scanToken_stringText name _)]
  have hcolon : scan ([':', ' '] ++ rest) = (scan rest).map (JsonToken.colon :: ·) := by
    have htoken : scanToken ([':', ' '] ++ rest) = some (.colon, ' ' :: rest) := rfl
    have hspace : scan (' ' :: rest) = scan rest :=
      scan_spaces (List.forall_mem_singleton.2 (by decide : isSpace ' ' = true)) rest
    rw [scan_of_scanToken htoken, hspace]
  rw [hcolon, Option.map_map]
  rfl

theorem scans_close {close : Char} {t : JsonToken} (depth : Nat)
    (h : ∀ rest, scanToken (close :: rest) = some (t, rest)) :
    Scans (Json.newLine depth ++ [close]) [t] :=
  (begins_newLine depth).append (begins_of_scanToken h).scans

theorem scans_scalar {s : Scalar} (h : s.Survives) : Scans s.text [s.token] :=
  fun rest hrest => scan_of_scanToken (h.scanToken_append.2 rest hrest)

end JsonToken

namespace Json

open JsonToken

theorem scans_nil : Scans [] [] := by
  intro rest _
  rw [List.nil_append]
  cases scan rest <;> rfl

theorem closing_comma (cs : List Char) : Closing ([','] ++ cs) := by
  intro rest c hc
  obtain rfl := Option.some.inj hc
  decide

mutual

/-- **The tokens of a printed value.** -/
theorem scans_pretty : ∀ (v : Json) (depth : Nat), v.Survives →
    Scans (v.prettyChars depth) v.tokens
  | scalar s, depth, h => scans_scalar h
  | array [], depth, h => by
    have hopen : Begins ['['] [.openList] := begins_of_scanToken fun _ => rfl
    have hclose : Begins [']'] [.closeList] := begins_of_scanToken fun _ => rfl
    exact hopen.append hclose.scans
  | array (v :: vs), depth, h => by
    have hopen : Begins ['['] [.openList] := begins_of_scanToken fun _ => rfl
    have hitems := scans_prettyItems (v :: vs) (depth + 1) h
    have hclose : Scans (newLine depth ++ [']']) [.closeList] := scans_close depth fun _ => rfl
    have hall := hopen.append (hitems.append (closing_newLine depth _) hclose)
    simpa [prettyChars, tokens] using hall
  | object [], depth, h => by
    have hopen : Begins ['\x7b'] [.openRecord] := begins_of_scanToken fun _ => rfl
    have hclose : Begins ['\x7d'] [.closeRecord] := begins_of_scanToken fun _ => rfl
    exact hopen.append hclose.scans
  | object (m :: ms), depth, h => by
    have hopen : Begins ['\x7b'] [.openRecord] := begins_of_scanToken fun _ => rfl
    have hmembers := scans_prettyMembers (m :: ms) (depth + 1) h
    have hclose : Scans (newLine depth ++ ['\x7d']) [.closeRecord] := scans_close depth fun _ => rfl
    have hall := hopen.append (hmembers.append (closing_newLine depth _) hclose)
    simpa [prettyChars, tokens] using hall

theorem scans_prettyItems : ∀ (vs : List Json) (depth : Nat), ItemsSurvive vs →
    Scans (prettyItems depth vs) (itemTokens vs)
  | [], _, _ => scans_nil
  | [v], depth, h => (begins_newLine depth).append (scans_pretty v depth h.1)
  | v :: w :: vs, depth, h => by
    have hfirst := (begins_newLine depth).append (scans_pretty v depth h.1)
    have hrest := begins_comma.append (scans_prettyItems (w :: vs) depth h.2)
    have hall := hfirst.append (closing_comma _) hrest
    simpa [prettyItems, itemTokens] using hall

theorem scans_prettyMembers : ∀ (ms : List (String × Json)) (depth : Nat), MembersSurvive ms →
    Scans (prettyMembers depth ms) (memberTokens ms)
  | [], _, _ => scans_nil
  | [(name, v)], depth, h => by
    have hall := (begins_newLine depth).append
      ((begins_name name).append (scans_pretty v depth h.1))
    simpa [prettyMembers, memberTokens] using hall
  | (name, v) :: m :: ms, depth, h => by
    have hfirst := (begins_newLine depth).append
      ((begins_name name).append (scans_pretty v depth h.1))
    have hrest := begins_comma.append (scans_prettyMembers (m :: ms) depth h.2)
    have hall := hfirst.append (closing_comma _) hrest
    simpa [prettyMembers, memberTokens] using hall

end

theorem scan_pretty {v : Json} (h : v.Survives) : scan v.pretty.toList = some v.tokens := by
  have hscan := scans_pretty v 0 h [] nofun
  rw [List.append_nil] at hscan
  rw [pretty, String.toList_ofList, hscan, scan, Option.map_some, List.append_nil]

end Json

/-! ## What the reader makes of the tokens -/

namespace JsonReader

variable {stack : List Open} {e : Expecting} {t : JsonToken}

/-- A value may come next. -/
def AcceptsValue (e : Expecting) : Prop :=
  e = .value ∨ e = .itemOrEnd

theorem step_value (he : AcceptsValue e) (ht : t ≠ .closeList) :
    step ⟨stack, e⟩ t = beginValue stack t := by
  rcases he with rfl | rfl
  · rfl
  · cases t with
    | closeList => exact absurd rfl ht
    | _ => rfl

theorem step_openList (he : AcceptsValue e) :
    step ⟨stack, e⟩ .openList = some ⟨.list [] :: stack, .itemOrEnd⟩ :=
  step_value he JsonToken.noConfusion

theorem step_openRecord (he : AcceptsValue e) :
    step ⟨stack, e⟩ .openRecord = some ⟨.record [] :: stack, .keyOrEnd⟩ :=
  step_value he JsonToken.noConfusion

/-- A token that is a scalar is a whole value. -/
theorem step_leaf (he : AcceptsValue e) {l : Leaf} (ht : leaf? t = some l) :
    step ⟨stack, e⟩ t = complete (.leaf l) stack := by
  rw [step_value he (by rintro rfl; cases ht)]
  unfold beginValue
  split
  · cases ht
  · cases ht
  · rw [ht]

theorem close_eq (n : Node) (h : stack.length < depthLimit) : close n stack = complete n stack := by
  rw [close, if_pos h]

/-- Items may come next, or the end of the list if there are none. -/
def AcceptsItems (e : Expecting) (vs : List Json) : Prop :=
  e = .itemOrEnd ∨ e = .value ∧ vs ≠ []

/-- Members may come next, or the end of the record if there are none. -/
def AcceptsMembers (e : Expecting) (ms : List (String × Json)) : Prop :=
  e = .keyOrEnd ∨ e = .key ∧ ms ≠ []

theorem step_name {ms : List (String × Json)} (he : AcceptsMembers e ms)
    (entries : List (Leaf × Node)) (name : String) :
    step ⟨.record entries :: stack, e⟩ (.string (some name)) =
      some ⟨.entry entries (.string name) :: stack, .colon⟩ := by
  rcases he with rfl | ⟨rfl, -⟩ <;> rfl

open Json

mutual

/-- **The tokens of a value are read as this value**, unless it is nested too deep. -/
theorem run_tokens : ∀ (v : Json) (stack : List Open) (e : Expecting) (ts : List JsonToken),
    AcceptsValue e → v.Survives → stack.length + v.depth ≤ depthLimit →
    run ⟨stack, e⟩ (v.tokens ++ ts) = (complete (.ofJson v) stack).bind fun s => run s ts
  | .scalar s, stack, e, ts, he, hv, _ => by
    rw [tokens, List.singleton_append, run, step_leaf he hv.scanToken_append.1]
    rfl
  | .array vs, stack, e, ts, he, hv, hd => by
    rw [depth] at hd
    rw [tokens, List.cons_append, List.append_assoc, run, step_openList he]
    exact run_itemTokens vs stack [] .itemOrEnd ts (.inl rfl) hv (by omega)
  | .object ms, stack, e, ts, he, hv, hd => by
    rw [depth] at hd
    rw [tokens, List.cons_append, List.append_assoc, run, step_openRecord he]
    exact run_memberTokens ms stack [] .keyOrEnd ts (.inl rfl) hv (by omega)

theorem run_itemTokens : ∀ (vs : List Json) (stack : List Open) (items : List Node)
    (e : Expecting) (ts : List JsonToken), AcceptsItems e vs → ItemsSurvive vs →
    stack.length + 1 + itemsDepth vs ≤ depthLimit →
    run ⟨.list items :: stack, e⟩ (itemTokens vs ++ ([.closeList] ++ ts)) =
      (complete (.list (items.reverse ++ Node.itemsOfJson vs)) stack).bind fun s => run s ts
  | [], stack, items, e, ts, he, _, hd => by
    obtain rfl := he.resolve_right fun h => h.2 rfl
    rw [itemTokens, List.nil_append, List.singleton_append, run, Node.itemsOfJson, List.append_nil]
    change (close _ stack).bind _ = _
    rw [close_eq _ (by omega)]
  | [v], stack, items, e, ts, he, hv, hd => by
    have hvalue : AcceptsValue e := he.symm.imp_left And.left
    have hdepth : (Open.list items :: stack).length + v.depth ≤ depthLimit := by
      simp only [itemsDepth, List.length_cons] at hd ⊢
      omega
    rw [itemTokens, run_tokens v _ e _ hvalue hv.1 hdepth, Node.itemsOfJson, Node.itemsOfJson]
    change (close (.list (Node.ofJson v :: items).reverse) stack).bind _ = _
    rw [close_eq _ (by omega), List.reverse_cons]
    rfl
  | v :: w :: vs, stack, items, e, ts, he, hv, hd => by
    have hvalue : AcceptsValue e := he.symm.imp_left And.left
    have hdepth : (Open.list items :: stack).length + v.depth ≤ depthLimit := by
      simp only [itemsDepth, List.length_cons] at hd ⊢
      omega
    have hrest : stack.length + 1 + itemsDepth (w :: vs) ≤ depthLimit := by
      simp only [itemsDepth] at hd ⊢
      omega
    rw [itemTokens, List.append_assoc, run_tokens v _ e _ hvalue hv.1 hdepth]
    change run ⟨.list (Node.ofJson v :: items) :: stack, .value⟩ (itemTokens (w :: vs) ++ _) = _
    rw [run_itemTokens (w :: vs) stack _ .value ts (.inr ⟨rfl, List.cons_ne_nil _ _⟩) hv.2 hrest,
      List.reverse_cons, List.append_assoc]
    rfl

theorem run_memberTokens : ∀ (ms : List (String × Json)) (stack : List Open)
    (entries : List (Leaf × Node)) (e : Expecting) (ts : List JsonToken),
    AcceptsMembers e ms → MembersSurvive ms → stack.length + 1 + membersDepth ms ≤ depthLimit →
    run ⟨.record entries :: stack, e⟩ (memberTokens ms ++ ([.closeRecord] ++ ts)) =
      (complete (.record (entries.reverse ++ Node.entriesOfJson ms)) stack).bind fun s => run s ts
  | [], stack, entries, e, ts, he, _, hd => by
    obtain rfl := he.resolve_right fun h => h.2 rfl
    rw [memberTokens, List.nil_append, List.singleton_append, run, Node.entriesOfJson,
      List.append_nil]
    change (close _ stack).bind _ = _
    rw [close_eq _ (by omega)]
  | [(name, v)], stack, entries, e, ts, he, hv, hd => by
    have hdepth : (Open.entry entries (.string name) :: stack).length + v.depth ≤ depthLimit := by
      simp only [membersDepth, List.length_cons] at hd ⊢
      omega
    rw [memberTokens, List.cons_append, List.cons_append, run, step_name he]
    change run ⟨.entry entries (.string name) :: stack, .value⟩ (v.tokens ++ _) = _
    rw [run_tokens v _ .value _ (.inl rfl) hv.1 hdepth, Node.entriesOfJson, Node.entriesOfJson]
    change (close (.record ((Leaf.string name, Node.ofJson v) :: entries).reverse) stack).bind _ = _
    rw [close_eq _ (by omega), List.reverse_cons]
    rfl
  | (name, v) :: m :: ms, stack, entries, e, ts, he, hv, hd => by
    have hdepth : (Open.entry entries (.string name) :: stack).length + v.depth ≤ depthLimit := by
      simp only [membersDepth, List.length_cons] at hd ⊢
      omega
    have hrest : stack.length + 1 + membersDepth (m :: ms) ≤ depthLimit := by
      rw [membersDepth] at hd
      omega
    rw [memberTokens, List.cons_append, List.cons_append, List.append_assoc, run, step_name he]
    change run ⟨.entry entries (.string name) :: stack, .value⟩ (v.tokens ++ _) = _
    rw [run_tokens v _ .value _ (.inl rfl) hv.1 hdepth]
    change run ⟨.record ((Leaf.string name, Node.ofJson v) :: entries) :: stack, .key⟩
      (memberTokens (m :: ms) ++ _) = _
    rw [run_memberTokens (m :: ms) stack _ .key ts (.inr ⟨rfl, List.cons_ne_nil _ _⟩) hv.2 hrest,
      List.reverse_cons, List.append_assoc]
    rfl

end

end JsonReader

/-- **A value that is printed is read as it was**, if its numbers are and it is not nested too
deep. -/
theorem ofJsonText?_pretty {v : Json} (h : v.Survives) (hdepth : v.depth ≤ JsonReader.depthLimit) :
    Node.ofJsonText? v.pretty = some (.ofJson v) := by
  have hrun := JsonReader.run_tokens v [] .value [] (.inl rfl) h (by simpa using hdepth)
  rw [List.append_nil] at hrun
  rw [Node.ofJsonText?, Json.scan_pretty h, Option.bind_some, JsonReader.ofTokens?,
    JsonReader.State.start, hrun]
  rfl

end TypedRequests
