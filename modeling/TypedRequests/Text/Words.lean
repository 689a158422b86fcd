import TypedRequests.Text.Letters
import TypedRequests.Text.Casing

/-!
# Words of a name

A name is cut into words at every character that is neither letter nor number, between a lower-case
and an upper-case letter (`fooBar`), and before the last capital of a run of capitals that a
lower-case letter follows (`HTTPServer`).

* `words` : the words of a text.
* `lowerCamel` : `fooBarBaz`.
* `pascal` : `FooBarBaz`.
-/

set_option autoImplicit false

namespace TypedRequests.Text

/-- The case of the letters read so far in a word. -/
inductive CaseMode where
  | fresh
  | lower
  | upper
deriving DecidableEq, Repr

/-- The mode after a further character; characters without case keep it. -/
def CaseMode.after (mode : CaseMode) (c : Char) : CaseMode :=
  if isLower c then .lower else if isUpper c then .upper else mode

/-- A finished word, unless nothing was read. -/
def closeWord (word : List Char) : List (List Char) :=
  if word = [] then [] else [word.reverse]

/-- The words of a text, where `word` holds the characters of the current word backwards. -/
def wordsFrom (mode : CaseMode) (word : List Char) : List Char → List (List Char)
  | [] => closeWord word
  | c :: cs =>
    if isAlphanumeric c then
      if mode.after c = .lower ∧ cs.head?.any isUpper then
        (c :: word).reverse :: wordsFrom .fresh [] cs
      else if mode = .upper ∧ isUpper c ∧ cs.head?.any isLower then
        word.reverse :: wordsFrom .fresh [c] cs
      else wordsFrom (mode.after c) (c :: word) cs
    else closeWord word ++ wordsFrom .fresh [] cs

/-- The words of a text. -/
def words (cs : List Char) : List (List Char) :=
  wordsFrom .fresh [] cs

/-! ## Casing of words -/

/-- A word in lower case; a sigma at its end is final. -/
def lowerWord : List Char → List Char
  | [] => []
  | [c] => if c = 'Σ' then ['ς'] else lowerOf c
  | c :: cs => lowerOf c ++ lowerWord cs

/-- A word with its first character in upper case and the others in lower case. -/
def capitalWord : List Char → List Char
  | [] => []
  | c :: cs => upperOf c ++ lowerWord cs

/-- The first word in lower case and the others capitalised. -/
def lowerCamelWords : List (List Char) → List Char
  | [] => []
  | word :: rest => lowerWord word ++ rest.flatMap capitalWord

/-- A name in lower camel case. -/
def lowerCamel (s : String) : String :=
  String.ofList (lowerCamelWords (words s.toList))

/-- A name in Pascal case. -/
def pascal (s : String) : String :=
  String.ofList ((words s.toList).flatMap capitalWord)

end TypedRequests.Text
