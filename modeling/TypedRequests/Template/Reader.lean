import TypedRequests.Template.Expression
import TypedRequests.Text.Blank

/-!
# Reading templates

* `Piece` : a text, or a tag, which may take away the white space around it.
* `trimmed` : the white space taken away.
* `Nesting` : the blocks that are open while the pieces are put together.
* `Template.ofText?` : the template of a text.

This is a part of the template language of Tera: printed expressions, comments, and the statements
`if`, `elif`, `else`, `endif`, `set`, `raw` and `endraw`. Left out are `set_global`, loops (`for`,
`break`, `continue`), sections of filters, macros (`macro`, `import`) and what joins templates
(`block`, `extends`, `include`). A text with one of them is no template here.
-/

set_option autoImplicit false

namespace TypedRequests.TemplateReader

open Template Text Text.Scanner

/-! ## Pieces -/

/-- What a tag says. -/
inductive Tag where
  /-- A comment, or a mark around text without tags. -/
  | mark
  | print (e : Expr)
  | set (name : String) (e : Expr)
  | choice (condition : Expr)
  | branch (condition : Expr)
  | otherwise
  | endChoice
deriving Repr

/-- A piece of a template. The flags of a tag say whether it takes away the white space before and
after it. -/
inductive Piece where
  | text (cs : List Char)
  | tag (trimsBefore trimsAfter : Bool) (t : Tag)
deriving Repr

/-- The mark that takes white space away. -/
def trimMark : Scanner Bool :=
  (char '-' *> pure true) <|> pure false

/-- The beginning of a tag of a kind, and whether it takes away the white space before it. -/
def opening (kind : Char) : Scanner Bool :=
  char '\x7b' *> char kind *> trimMark

/-- The end of a tag of a kind, and whether it takes away the white space after it. -/
def closing (kind : Char) : Scanner Bool :=
  (char '-' *> char kind *> char '\x7d' *> pure true)
    <|> (char kind *> char '\x7d' *> pure false)

/-- A tag in percent signs. -/
def statementTag (p : Scanner Tag) : Scanner Piece := do
  let before ← opening '%'
  let t ← p
  let after ← spaced (closing '%')
  return .tag before after t

/-- What a tag in percent signs says. -/
def statement : Scanner Tag :=
  (.choice <$> (sign "if" *> expression))
    <|> (.branch <$> (sign "elif" *> expression))
    <|> (sign "else" *> pure .otherwise)
    <|> (sign "endif" *> pure .endChoice)
    <|> (do
      sign "set"
      let target ← name
      sign "="
      let e ← expression
      return .set target e)

/-- An expression whose value is written. -/
def printTag : Scanner Piece := do
  let before ← opening '\x7b'
  let e ← expression
  let after ← spaced (closing '\x7d')
  return .tag before after (.print e)

/-- The characters up to where a scanner can read. -/
def upTo {α : Type} (p : Scanner α) : Scanner (List Char) :=
  many (fun cs => if (p cs).isSome then none else next (fun _ => true) cs)

/-- A comment. -/
def commentTag : Scanner Piece := do
  let before ← opening '#'
  discard (upTo (closing '#'))
  let after ← closing '#'
  return .tag before after .mark

/-- Text in which tags have no meaning, between its two marks. -/
def rawPieces : Scanner (List Piece) := do
  let first ← statementTag (sign "raw" *> pure .mark)
  let last := statementTag (sign "endraw" *> pure .mark)
  let cs ← upTo last
  let last ← last
  return [first, .text cs, last]

/-- The beginning of a tag of any kind. -/
def tagStart : Scanner Unit :=
  literal "\x7b\x7b" <|> literal "\x7b%" <|> literal "\x7b#"

/-- A text up to the next tag. -/
def textPiece : Scanner Piece := do
  let cs ← upTo tagStart
  if cs.isEmpty then failure else return .text cs

/-- The pieces of a template. -/
def pieces : Scanner (List Piece) :=
  List.flatten <$> many (rawPieces
    <|> (List.singleton <$> (textPiece <|> commentTag <|> printTag <|> statementTag statement)))

/-! ## White space -/

/-- The pieces without the white space that tags take away, where the tag before them does so as
`afterTag` says. -/
def trimmed (afterTag : Bool) : List Piece → List Piece
  | [] => []
  | .text cs :: rest =>
    let beforeTag :=
      match rest with
      | .tag before _ _ :: _ => before
      | _ => false
    let cs := if afterTag then trimStart cs else cs
    let cs := if beforeTag then trimEnd cs else cs
    .text cs :: trimmed false rest
  | .tag before after t :: rest => .tag before after t :: trimmed after rest

/-! ## Nesting -/

/-- A choice whose end is still to come. -/
structure OpenChoice where
  /-- The blocks before the choice, in reverse order. -/
  before : List Block
  /-- The branches that have ended, in reverse order. -/
  branches : List (Expr × List Block)
  /-- The condition of the branch that is open, unless it is the last one. -/
  condition : Option Expr
deriving Repr

/-- The blocks that are put together, in reverse order, inside of open choices. -/
structure Nesting where
  blocks : List Block
  choices : List OpenChoice
deriving Repr

namespace Nesting

/-- One more block. -/
def add (n : Nesting) (b : Block) : Nesting :=
  ⟨b :: n.blocks, n.choices⟩

/-- The branch of the innermost choice ends, and another one begins. -/
def turn (n : Nesting) (condition : Option Expr) : Option Nesting :=
  match n.choices with
  | ⟨before, branches, some c⟩ :: outer =>
    some ⟨[], ⟨before, (c, n.blocks.reverse) :: branches, condition⟩ :: outer⟩
  | _ => none

/-- The innermost choice ends. -/
def close (n : Nesting) : Option Nesting :=
  match n.choices with
  | ⟨before, branches, some c⟩ :: outer =>
    some ⟨.choice ((c, n.blocks.reverse) :: branches).reverse [] :: before, outer⟩
  | ⟨before, branches, none⟩ :: outer =>
    some ⟨.choice branches.reverse n.blocks.reverse :: before, outer⟩
  | [] => none

/-- What a piece does to the blocks. -/
def step (n : Nesting) : Piece → Option Nesting
  | .text cs => some (n.add (.text (String.ofList cs)))
  | .tag _ _ .mark => some n
  | .tag _ _ (.print e) => some (n.add (.print e))
  | .tag _ _ (.set name e) => some (n.add (.set name e))
  | .tag _ _ (.choice c) => some ⟨[], ⟨n.blocks, [], some c⟩ :: n.choices⟩
  | .tag _ _ (.branch c) => n.turn (some c)
  | .tag _ _ .otherwise => n.turn none
  | .tag _ _ .endChoice => n.close

/-- The blocks, if no choice is open. -/
def finished? (n : Nesting) : Option (List Block) :=
  if n.choices.isEmpty then some n.blocks.reverse else none

end Nesting

end TypedRequests.TemplateReader

namespace TypedRequests

open TemplateReader in
/-- The template of a text, if it is one. -/
def Template.ofText? (name text : String) : Option Template := do
  let ps ← Text.Scanner.whole? pieces text.toList
  let n ← (trimmed false ps).foldlM Nesting.step ⟨[], []⟩
  let blocks ← n.finished?
  return ⟨name, blocks⟩

end TypedRequests
