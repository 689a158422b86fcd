import TypedRequests.Number.Decimal
import TypedRequests.Template.Basic
import TypedRequests.Text.Scan

/-!
# Reading expressions

White space may stand before every word and sign. Alternatives are tried in order, and the first
that fits is taken.

* `Grammar` : the two kinds of expressions that parentheses enclose.
* `Grammar.within` : the expressions that enclose those of a grammar.
* `expression` : an expression whose parentheses are nested as deep as the text allows.

The operators are `and`, `or`, `not`, `==`, `!=`, `+`, `~`, `|` and `is`. Left out of the language
are the other comparisons (`<`, `<=`, `>`, `>=`, `in`) and sums (`-`, `*`, `/`, `%`), arrays, parts of
values in brackets, and calls of macros. A text with one of them is no expression here.
-/

set_option autoImplicit false

namespace TypedRequests.TemplateReader

open Template Text Text.Scanner

/-! ## Words and signs -/

/-- White space between words. -/
def isSpace (c : Char) : Bool :=
  c == ' ' || c == '\t' || c == '\r' || c == '\n'

/-- A scanner after white space. -/
def spaced {α : Type} (p : Scanner α) : Scanner α :=
  takeWhile isSpace *> p

/-- A sign. -/
def sign (text : String) : Scanner Unit :=
  spaced (literal text)

/-- A word that white space follows. -/
def word (text : String) : Scanner Unit :=
  spaced (literal text <* next isSpace)

/-- A character of a name. -/
def isNameChar (c : Char) : Bool :=
  ('a' ≤ c && c ≤ 'z') || ('A' ≤ c && c ≤ 'Z') || c.isDigit || c == '_'

/-- A name, which does not begin with a digit. -/
def bareName : Scanner (List Char) := do
  let c ← next fun c => isNameChar c && !c.isDigit
  let cs ← takeWhile isNameChar
  return c :: cs

/-- A name. -/
def name : Scanner String :=
  spaced (String.ofList <$> bareName)

/-- Names with points between them. -/
def pathName : Scanner String :=
  spaced (do
    let first ← bareName
    let rest ← many (char '.' *> takeWhile₁ isNameChar)
    return String.ofList (first ++ rest.flatMap fun part => '.' :: part))

/-! ## Literals -/

/-- A string in quotes of a kind, without escapes. -/
def quotedIn (quote : Char) : Scanner Scalar := do
  char quote
  let cs ← takeWhile (· != quote)
  char quote
  return .string (String.ofList cs)

/-- A string. -/
def text : Scanner Expr :=
  .literal <$> spaced (quotedIn '"' <|> quotedIn '\'' <|> quotedIn '\x60')

/-- Digits that begin with zero only if they are zero. -/
def wholePart : Scanner (List Char) :=
  (char '0' *> pure ['0']) <|> takeWhile₁ Char.isDigit

/-- A minus sign, which may be missing. -/
def minus : Scanner Bool :=
  (char '-' *> pure true) <|> pure false

/-- A number with a point. -/
def real : Scanner Expr :=
  spaced (do
    let negative ← minus
    let whole ← wholePart
    char '.'
    let fraction ← takeWhile₁ Char.isDigit
    let number : DecimalLiteral := ⟨negative, whole.map digitValue, fraction.map digitValue, 0⟩
    return .literal (.real number.nearest))

/-- An integer of 64 bits. -/
def integer : Scanner Expr :=
  spaced (do
    let negative ← minus
    let whole ← wholePart
    let n : Int := valueOfDigits 10 (whole.map digitValue)
    let n := if negative then -n else n
    if fitsSigned 64 n then return .literal (.integer n) else failure)

/-- A truth value. -/
def truth : Scanner Expr :=
  ((sign "true" <|> sign "True") *> pure (.literal (.bool true)))
    <|> ((sign "false" <|> sign "False") *> pure (.literal (.bool false)))

/-! ## Operands -/

/-- Expressions that parentheses may enclose. -/
structure Grammar where
  /-- Sums. -/
  sums : Scanner Expr
  /-- Conditions, and all other expressions. -/
  conditions : Scanner Expr

namespace Grammar

/-- The grammar without expressions. -/
def nothing : Grammar :=
  ⟨failure, failure⟩

/-- Named arguments in parentheses. -/
def arguments (g : Grammar) : Scanner (List (String × Expr)) := do
  sign "("
  let args ← attempt (separated (sign ",") (do
    let key ← name
    sign "="
    let e ← g.conditions
    return (key, e)))
  if args.isSome then
    discard (attempt (sign ","))
  sign ")"
  return args.getD []

/-- A function with its arguments. -/
def call (g : Grammar) : Scanner Expr := do
  let function ← name
  discard g.arguments
  return .call function

/-- A filter with its arguments. -/
def filter (g : Grammar) : Scanner (String × List (String × Expr)) := do
  sign "|"
  let f ← name
  let args ← attempt g.arguments
  return (f, args.getD [])

/-- An expression with the filters that follow it. -/
def withFilters (g : Grammar) (p : Scanner Expr) : Scanner Expr := do
  let e ← p
  let filters ← many g.filter
  return if filters.isEmpty then e else .filtered e filters

/-- A test of a variable. -/
def test (g : Grammar) : Scanner Expr := do
  let subject ← pathName
  sign "is"
  let negation ← attempt (sign "not" *> ahead name)
  let check ← name
  let args ← attempt (sign "(" *> separated (sign ",") g.conditions <* sign ")")
  return .test subject negation.isSome check (args.getD [])

/-- A part of a text that is put together. -/
def part (g : Grammar) : Scanner Expr :=
  g.call <|> real <|> integer <|> text <|> (.ident <$> pathName)

/-- Texts put together. -/
def concatenation (g : Grammar) : Scanner Expr := do
  let parts ← separated (sign "~") g.part
  if parts.length = 1 then failure else return .concat parts

/-- An operand of a sum. -/
def atom (g : Grammar) : Scanner Expr :=
  (sign "(" *> g.sums <* sign ")")
    <|> truth <|> g.test <|> g.call <|> (.ident <$> pathName) <|> real <|> integer

/-- The sum of expressions, from left to right. -/
def sumOf (p : Scanner Expr) : Scanner Expr := do
  let es ← separated (sign "+") p
  match es with
  | [] => failure
  | e :: es => return es.foldl .sum e

/-- An operand of a comparison. -/
def operand (g : Grammar) : Scanner Expr :=
  g.withFilters (g.concatenation <|> text) <|> sumOf (g.withFilters (sumOf g.atom))

/-- Two operands compared, or only one. -/
def comparison (g : Grammar) : Scanner Expr := do
  let l ← g.operand
  let equation ← attempt (do
    sign "=="
    let r ← g.operand
    return Expr.equal l r)
  let inequation ← attempt (do
    sign "!="
    let r ← g.operand
    return Expr.unequal l r)
  return (equation <|> inequation).getD l

/-- A condition that may be negated. -/
def negatable (g : Grammar) : Scanner Expr :=
  let negated (p : Scanner Expr) : Scanner Expr := do
    let negation ← attempt (word "not")
    let e ← p
    return if negation.isSome then .not e else e
  negated g.comparison <|> negated (sign "(" *> g.conditions <* sign ")")

/-- Conditions joined by `and`, which binds more tightly, and `or`. -/
def disjunction (g : Grammar) : Scanner Expr := do
  let alternatives ← separated (word "or") (do
    let es ← separated (word "and") g.negatable
    match es with
    | [] => failure
    | e :: es => return es.foldl Expr.and e)
  match alternatives with
  | [] => failure
  | e :: es => return es.foldl Expr.or e

/-- The expressions that enclose those of a grammar. -/
def within (g : Grammar) : Grammar :=
  ⟨sumOf g.atom, g.disjunction⟩

/-- The expressions whose parentheses are nested less than `depth` deep. -/
def nested : (depth : Nat) → Grammar
  | 0 => nothing
  | depth + 1 => (nested depth).within

end Grammar

/-- An expression. -/
def expression : Scanner Expr := fun cs =>
  (Grammar.nested (cs.count '(' + 1)).conditions cs

end TypedRequests.TemplateReader
