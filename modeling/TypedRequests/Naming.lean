import TypedRequests.OpenApi.Method
import TypedRequests.Text.Blank
import TypedRequests.Text.Words
import TypedRequests.TypeScript.Literal

/-!
# Names of generated things

How names of the document become names of the generated code.

* `withoutQuotes` : a component key as a type name.
* `referenceName` : the type name a reference stands for.
* `sanitized` : any name as a variable name.
* `functionName`, `queryTypeName`, `tagDirectory` : the names of functions, of their query types
  and of the directories of tags.
-/

set_option autoImplicit false

namespace TypedRequests.Naming

open TypeScript OpenApi

/-- The name of the top type, which needs no declaration. -/
def unknownType : String := "unknown"

/-- The character is a quote. -/
def isQuote (c : Char) : Bool :=
  c == '"' || c == '\'' || c == '\x60'

/-- A name without its quotes, which are never part of the symbol. -/
def withoutQuotes (name : String) : String :=
  String.ofList (name.toList.filter fun c => !isQuote c)

/-- The last piece of a path, split at slashes. -/
def lastSegment (path : String) : String :=
  String.ofList ((Text.splitOn '/' path.toList).getLast?.getD [])

/-- The type name a reference stands for: its last segment without quotes. -/
def referenceName (reference : String) : String :=
  withoutQuotes (lastSegment reference)

/-- A name that is no identifier becomes lower camel case. -/
def identifierForm (name : String) : String :=
  if isIdentifier name then name else Text.lowerCamel name

/-- An underscore before a leading ASCII digit. -/
def guardDigit (name : String) : String :=
  if name.toList.head?.any Char.isDigit then "_" ++ name else name

/-- An underscore before a reserved word. -/
def guardReserved (name : String) : String :=
  if isReserved name then "_" ++ name else name

/-- A name as a variable name. -/
def sanitized (name : String) : String :=
  let form := identifierForm name
  if form = "" then "_empty" else guardReserved (guardDigit form)

/-- The segments of a path that give a function its name: those that are not empty and have no
placeholder. -/
def nameSegments (path : String) : List (List Char) :=
  (Text.splitOn '/' path.toList).filter fun s => !s.isEmpty && !s.contains '\x7b'

/-- The function name of an operation: its method and the literal segments of its path. -/
def functionName (method : Method) (path : String) : String :=
  sanitized (Text.lowerCamel (String.ofList
    (method.name.toList ++ (nameSegments path).flatMap fun s => '-' :: s)))

/-- The name of the query type of a function. -/
def queryTypeName (function : String) : String :=
  Text.pascal function ++ "Query"

/-- The directory of a tag. -/
def tagDirectory (tag : String) : String :=
  let name := Text.lowerCamel tag
  if name = "" then "default" else name

end TypedRequests.Naming
