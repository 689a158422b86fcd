import TypedRequests.Proofs.Calls
import TypedRequests.Proofs.UniqueReading

/-!
# What literals and keys stand for

A text that is printed as a literal or as a key can be read back: the literal ends where it should,
and its value is the text.

* `literalValue?`, `readString?`, `readKey?` : a reader of string literals and of property keys.
* `readString?_stringLiteral`, `readKey?_propertyKey` : it gives back what was printed.
* `escaped_eq_replaced` : escaping replaces four characters, one after the other.
* `literals_denote` : what this means for keys, for the members of enums and for addresses.
-/

set_option autoImplicit false

namespace TypedRequests

namespace Text

/-- To replace a single character is to replace it wherever it stands. -/
theorem replaceAll_singleton (p : Char) (new cs : List Char) :
    replaceAll [p] new cs = cs.flatMap fun c => if c = p then new else [c] := by
  rw [replaceAll]
  fun_induction replaceNonempty p [] new cs with
  | case1 => rfl
  | case2 c cs rest hstrip ih =>
    obtain ⟨rfl, rfl⟩ := List.cons.inj (stripPrefix?_eq_some_iff.1 hstrip)
    rw [ih, List.flatMap_cons, if_pos rfl]
  | case3 c cs hstrip ih =>
    have hne : c ≠ p := by
      rintro rfl
      rw [stripPrefix?_eq_some_iff.2 (List.singleton_append ..).symm] at hstrip
      cases hstrip
    rw [ih, List.flatMap_cons, if_neg hne, List.singleton_append]

theorem toList_replaced {old : String} {p : Char} (h : old.toList = [p]) (new s : String) :
    (replaced old new s).toList = s.toList.flatMap fun c => if c = p then new.toList else [c] := by
  rw [replaced, String.toList_ofList, h, replaceAll_singleton]

end Text

namespace TypeScript

/-! ## Reading -/

/-- The character that an escape stands for, by the character behind its backslash. -/
def escapeValue? : Char → Option Char
  | '\\' => some '\\'
  | '"' => some '"'
  | 'n' => some '\n'
  | 'r' => some '\r'
  | _ => none

/-- The value of a string literal behind its opening quote, and what follows its closing one. The
first quote without a backslash closes it; it contains no line end, and no other escapes. -/
def literalValue? : List Char → Option (List Char × List Char)
  | [] => none
  | '"' :: cs => some ([], cs)
  | '\\' :: [] => none
  | '\\' :: c :: cs =>
    (escapeValue? c).bind fun v => (literalValue? cs).map fun p => (v :: p.1, p.2)
  | c :: cs => if c = '\n' ∨ c = '\r' then none else (literalValue? cs).map fun p => (c :: p.1, p.2)

/-- The value of a string literal, and what follows it. -/
def readString? : List Char → Option (String × List Char)
  | '"' :: cs => (literalValue? cs).map fun p => (String.ofList p.1, p.2)
  | _ => none

/-- The name of a property, from its key, and what follows. A key is an identifier or a string
literal. -/
def readKey? : List Char → Option (String × List Char)
  | [] => none
  | c :: cs =>
    if isIdentifierStart c then
      some (String.ofList (c :: cs.takeWhile isIdentifierPart), cs.dropWhile isIdentifierPart)
    else readString? (c :: cs)

/-! ## String literals -/

theorem literalValue?_escapedChar (c : Char) (r : List Char) :
    literalValue? (escapedChar c ++ r) = (literalValue? r).map fun p => (c :: p.1, p.2) := by
  unfold escapedChar
  split
  · rfl
  · rfl
  · rfl
  · rfl
  · rename_i hbackslash hquote hfeed hreturn
    rw [List.singleton_append, literalValue?, if_neg (not_or.2 ⟨hfeed, hreturn⟩)]
    · exact fun h => hquote h
    · exact fun h _ => hbackslash h
    · exact fun _ _ h _ => hbackslash h

/-- **An escaped text is read up to the quote behind it**, and its value is the text. -/
theorem literalValue?_escaped (cs r : List Char) :
    literalValue? (cs.flatMap escapedChar ++ '"' :: r) = some (cs, r) := by
  induction cs with
  | nil => rfl
  | cons c cs ih =>
    rw [List.flatMap_cons, List.append_assoc, literalValue?_escapedChar, ih]
    rfl

/-- **A string literal stands for its text**, whatever follows. -/
theorem readString?_stringLiteral (s : String) (r : List Char) :
    readString? ((stringLiteral s).toList ++ r) = some (s, r) := by
  rw [toList_stringLiteral, List.cons_append, List.append_assoc, List.singleton_append,
    readString?, literalValue?_escaped, Option.map_some, String.ofList_toList]

/-- **Escaping replaces four characters one after the other**, first the backslash. -/
theorem escaped_eq_replaced (s : String) :
    escaped s = Text.replaced "\r" "\\r" (Text.replaced "\n" "\\n"
      (Text.replaced "\"" "\\\"" (Text.replaced "\\" "\\\\" s))) := by
  apply String.toList_inj.1
  rw [Text.toList_replaced (p := '\r') rfl, Text.toList_replaced (p := '\n') rfl,
    Text.toList_replaced (p := '"') rfl, Text.toList_replaced (p := '\\') rfl, escaped,
    String.toList_ofList]
  simp only [List.flatMap_assoc]
  congr 1
  funext c
  -- no replacement touches what an earlier one has put in
  unfold escapedChar
  split
  · decide
  · decide
  · decide
  · decide
  · rename_i hbackslash hquote hfeed hreturn
    rw [if_neg hbackslash, List.flatMap_singleton, if_neg hquote, List.flatMap_singleton,
      if_neg hfeed, List.flatMap_singleton, if_neg hreturn]

/-! ## Keys -/

/-- **A key stands for its name**, if the text that follows does not continue a word. -/
theorem readKey?_propertyKey (name : String) {r : List Char} (hr : EndsWord r) :
    readKey? ((propertyKey name).toList ++ r) = some (name, r) := by
  unfold propertyKey
  split
  · rename_i hname
    obtain ⟨c, cs, hcs, hstart⟩ := exists_start_of_isIdentifier hname
    have hparts : ∀ d ∈ cs, isIdentifierPart d = true := by
      intro d hd
      exact forall_part_of_isIdentifier hname d (hcs ▸ List.mem_cons_of_mem c hd)
    have htake : r.takeWhile isIdentifierPart = [] := by
      cases r with
      | nil => rfl
      | cons d r => rw [List.takeWhile_cons, hr d rfl]; rfl
    have hdrop : r.dropWhile isIdentifierPart = r := by
      cases r with
      | nil => rfl
      | cons d r => rw [List.dropWhile_cons, hr d rfl]; rfl
    rw [hcs, List.cons_append, readKey?, if_pos hstart, List.takeWhile_append_of_pos hparts,
      List.dropWhile_append_of_pos hparts, htake, hdrop, List.append_nil, ← hcs,
      String.ofList_toList]
  · rw [toList_stringLiteral, List.cons_append, readKey?, if_neg (by decide), ← List.cons_append,
      ← toList_stringLiteral, readString?_stringLiteral]

/-- **Different names have different keys.** -/
theorem propertyKey_injective {m n : String} (h : propertyKey m = propertyKey n) : m = n := by
  have hm := readKey?_propertyKey m endsWord_nil
  rw [h, readKey?_propertyKey n endsWord_nil] at hm
  exact (Prod.mk.inj (Option.some.inj hm)).1.symm

end TypeScript

namespace OpenApi

open TypeScript

/-! ## Members of enums -/

/-- An enum is declared by a schema that lists its values. -/
theorem members_of_declare {key : String} {s : Schema} {d : Enumeration}
    (h : declare key s = .ok (.enumeration d)) :
    d.members = enumMembers (s.enumValues.getD []) := by
  obtain ⟨vs, hvs, -, hmembers⟩ := enumValues_of_declare h
  rw [hmembers, hvs, Option.getD_some]

/-- The printed value of an enum member stands for the listed text, if it is a text. -/
def StandsFor (v : EnumValue) (m : EnumMember) : Prop :=
  ∀ text, v = .string text → readString? m.value.text.toList = some (text, [])

theorem standsFor_enumMembersFrom (start : Nat) (vs : List EnumValue) :
    List.Forall₂ StandsFor vs (enumMembersFrom start vs) := by
  induction vs generalizing start with
  | nil => exact .nil
  | cons v vs ih =>
    refine .cons ?_ (ih (start + 1))
    rintro text rfl
    have hread := readString?_stringLiteral text []
    rwa [List.append_nil] at hread

end OpenApi

namespace Request

open OpenApi TypeScript

/-- The address of an endpoint without route parameters is a string literal. -/
theorem Asks.url_of_noRoute {ctx : Context} {e : Endpoint} {names : Names} {call : CallInfo}
    {f : EmittedFunction} {path : String} (h : Asks ctx e names call f) (hroute : e.route = [])
    (hpath : e.requestPath ctx = .ok path) : call.url = stringLiteral path := by
  obtain ⟨path', hpath', rfl, _⟩ := h.eq_callOf
  rw [hpath] at hpath'
  cases hpath'
  simp [Endpoint.callOf, Endpoint.urlExpression, hroute]

/-- It stands for the path of the requests. -/
theorem Asks.readString?_url {ctx : Context} {e : Endpoint} {names : Names} {call : CallInfo}
    {f : EmittedFunction} {path : String} (h : Asks ctx e names call f) (hroute : e.route = [])
    (hpath : e.requestPath ctx = .ok path) : readString? call.url.toList = some (path, []) := by
  rw [h.url_of_noRoute hroute hpath]
  simpa using readString?_stringLiteral path []

/-- **Literals and keys denote their texts.** A string literal is read as one literal whose value is
the text, and a property key as one key whose name is the property; therefore different members of
an interface have different keys, the values of an enum are the listed texts, and the address of an
endpoint without route parameters is the path of its requests. -/
theorem literals_denote :
    (∀ (s : String) (r : List Char),
      readString? ("\"" ++ escaped s ++ "\"").toList = some (s, []) ∧
        readString? ((stringLiteral s).toList ++ r) = some (s, r) ∧
        escaped s = Text.replaced "\r" "\\r" (Text.replaced "\n" "\\n"
          (Text.replaced "\"" "\\\"" (Text.replaced "\\" "\\\\" s)))) ∧
    (∀ (name : String) (r : List Char), EndsWord r →
      readKey? ((propertyKey name).toList ++ r) = some (name, r)) ∧
    (∀ (d : Interface), ∀ m ∈ d.members, ∀ n ∈ d.members,
      propertyKey m.name = propertyKey n.name → m.name = n.name) ∧
    (∀ (key : String) (s : Schema) (d : Enumeration), declare key s = .ok (.enumeration d) →
      List.Forall₂ StandsFor (s.enumValues.getD []) d.members) ∧
    ∀ (ctx : Context) (e : Endpoint) (names : Names) (call : CallInfo) (f : EmittedFunction)
      (path : String), Asks ctx e names call f → e.route = [] → e.requestPath ctx = .ok path →
        readString? call.url.toList = some (path, []) := by
  refine ⟨fun s r => ⟨?_, readString?_stringLiteral s r, escaped_eq_replaced s⟩,
    fun name r hr => readKey?_propertyKey name hr,
    fun d m _ n _ h => propertyKey_injective h,
    fun key s d hd => ?_,
    fun ctx e names call f path hasks hroute hpath => hasks.readString?_url hroute hpath⟩
  · simpa [stringLiteral] using readString?_stringLiteral s []
  · rw [members_of_declare hd]
    exact standsFor_enumMembersFrom 0 _

/-! ## Texts with quotes and line ends -/

/-- A schema that lists texts with quotes, backslashes and line ends. -/
def quotedSchema : Schema :=
  { Schema.empty with enumValues := some [.string "on\"air\\", .integer 1, .string "\r\na"] }

/-- The enum that it declares. -/
def quotedEnum : Enumeration :=
  ⟨"Status", none, enumMembers [.string "on\"air\\", .integer 1, .string "\r\na"]⟩

/-- An operation without parameters on a path with a quote. -/
def quotedEndpoint : Endpoint :=
  ⟨"/say/\"hi\"", .get, none, [], [], none, .empty⟩

/-- Settings whose template gives the address. -/
def quotedContext : Context :=
  .ofTemplate fun call => .ok call.url

/-- Texts with quotes and line ends are what their literals stand for. -/
theorem literals_denote_quoted :
    declare "Status" quotedSchema = .ok (.enumeration quotedEnum) ∧
    List.Forall₂ StandsFor (quotedSchema.enumValues.getD []) quotedEnum.members ∧
    readKey? ((propertyKey "a\"b").toList ++ [':']) = some ("a\"b", [':']) ∧
    ∃ call f, Asks quotedContext quotedEndpoint (.ofModelTypes []) call f ∧
      call.url = "\"/say/\\\"hi\\\"\"" ∧
      readString? call.url.toList = some ("/say/\"hi\"", []) := by
  obtain ⟨_, hkey, _, henum, hurl⟩ := literals_denote
  have hdeclare : declare "Status" quotedSchema = .ok (.enumeration quotedEnum) := rfl
  have houtline : quotedEndpoint.outline quotedContext (.ofModelTypes []) = .ok _ := rfl
  have hasks := asks_of_outline houtline
  exact ⟨hdeclare, henum _ _ _ hdeclare, hkey _ _ (endsWord_cons (by decide)), _, _, hasks,
    hasks.url_of_noRoute rfl rfl, hurl _ _ _ _ _ _ hasks rfl rfl⟩

end Request

end TypedRequests
