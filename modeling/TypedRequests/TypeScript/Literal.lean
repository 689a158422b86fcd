/-!
# Identifiers and string literals

* `isIdentifier` : the ASCII identifiers, which may stand bare in the printed text.
* `stringLiteral` : a text as a double-quoted literal.
* `propertyKey` : a property name, bare where it can be.
-/

set_option autoImplicit false

namespace TypedRequests.TypeScript

/-- The character can begin an identifier. -/
def isIdentifierStart (c : Char) : Bool :=
  c.isAlpha || c == '_' || c == '$'

/-- The character can continue an identifier. -/
def isIdentifierPart (c : Char) : Bool :=
  c.isAlphanum || c == '_' || c == '$'

/-- The characters form an identifier. -/
def isIdentifierChars : List Char → Bool
  | [] => false
  | c :: cs => isIdentifierStart c && cs.all isIdentifierPart

/-- The text is usable as a bare identifier or property key. -/
def isIdentifier (s : String) : Bool :=
  isIdentifierChars s.toList

/-- Words that cannot name a variable. -/
def reservedWords : List String :=
  ["break", "case", "catch", "class", "const", "continue", "debugger", "default", "delete", "do",
    "else", "enum", "export", "extends", "false", "finally", "for", "function", "if", "import",
    "in", "instanceof", "new", "null", "return", "super", "switch", "this", "throw", "true", "try",
    "typeof", "var", "void", "while", "with", "yield", "let", "static", "implements", "interface",
    "package", "private", "protected", "public", "await", "async"]

/-- The text is a reserved word. -/
def isReserved (s : String) : Bool :=
  reservedWords.contains s

/-! ## String literals -/

/-- A character as it is written between double quotes. -/
def escapedChar : Char → List Char
  | '\\' => ['\\', '\\']
  | '"' => ['\\', '"']
  | '\n' => ['\\', 'n']
  | '\r' => ['\\', 'r']
  | c => [c]

/-- A text as it is written between double quotes. -/
def escaped (s : String) : String :=
  String.ofList (s.toList.flatMap escapedChar)

/-- A text as a double-quoted literal. -/
def stringLiteral (s : String) : String :=
  "\"" ++ escaped s ++ "\""

/-- A property name as a key: bare if it is an identifier, else a string literal. -/
def propertyKey (name : String) : String :=
  if isIdentifier name then name else stringLiteral name

end TypedRequests.TypeScript
