import TypedRequests.Text.Blank
import TypedRequests.Text.Replace

/-!
# Documentation comments

`docComment indent text` is the comment that documents a declaration: nothing for a blank text, one
line for one line of text, and a starred block for more. An end of comment inside the text is
written `*\/`, so that the comment ends where it should.
-/

set_option autoImplicit false

namespace TypedRequests.TypeScript

open Text

/-- A line of a starred block. -/
def starredLine (indent line : List Char) : List Char :=
  if line = [] then indent ++ [' ', '*', '\n']
  else indent ++ [' ', '*', ' '] ++ line ++ ['\n']

/-- A comment from its lines. -/
def commentOfLines (indent : List Char) : List (List Char) → List Char
  | [] => []
  | [line] => indent ++ ['/', '*', '*', ' '] ++ line ++ [' ', '*', '/', '\n']
  | first :: second :: rest =>
    indent ++ ['/', '*', '*', '\n']
      ++ (first :: second :: rest).flatMap (starredLine indent)
      ++ indent ++ [' ', '*', '/', '\n']

/-- The lines of a comment on a text. -/
def commentLines (text : List Char) : List (List Char) :=
  (lines (replaceAll ['*', '/'] ['*', '\\', '/'] (trim text))).map trimEnd

/-- The comment that documents a declaration indented by `indent`. -/
def docComment (indent text : String) : String :=
  String.ofList (commentOfLines indent.toList (commentLines text.toList))

/-- The comment of a declaration at the margin, if it is documented. -/
def docCommentOf (doc : Option String) : String :=
  match doc with
  | some text => docComment "" text
  | none => ""

end TypedRequests.TypeScript
