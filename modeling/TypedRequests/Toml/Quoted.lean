import TypedRequests.Number.Decimal
import TypedRequests.Text.Scan

/-!
# Strings and keys of TOML

* `quoted` : the four kinds of strings. A string in three quotes may have several lines.
* `key` : names with points between them.
* `space`, `lineEnd` : what stands between them.
-/

set_option autoImplicit false

namespace TypedRequests.TomlReader

open Text Text.Scanner

/-! ## White space -/

/-- A blank inside a line. -/
def isBlank (c : Char) : Bool :=
  c == ' ' || c == '\t'

/-- A character that may stand by itself: no control character but the tabulator. -/
def isPlain (c : Char) : Bool :=
  c == '\t' || (32 ≤ c.toNat && c.toNat != 127)

/-- Blanks inside a line. -/
def blanks : Scanner Unit :=
  discard (takeWhile isBlank)

/-- The end of a line that is not the last one. -/
def newline : Scanner Unit :=
  literal "\n" <|> literal "\r\n"

/-- A comment, which ends before the end of its line. -/
def comment : Scanner Unit := do
  char '#'
  discard (takeWhile isPlain)

/-- What may follow the last word of a line, with the end of the line. -/
def lineEnd : Scanner Unit := do
  blanks
  discard (attempt comment)
  newline <|> atEnd

/-- Blanks, ends of lines and comments. -/
def space : Scanner Unit :=
  discard (many (discard (takeWhile₁ isBlank) <|> newline <|> (comment *> newline)))

/-! ## Strings -/

/-- The character with the given number in hexadecimal digits. -/
def numbered (length : Nat) : Scanner Char := do
  let digits ← exactly length fun c => (hexValue? c).isSome
  match charOfHex? digits with
  | some c => return c
  | none => failure

/-- What may follow a backslash. -/
def escaped : Scanner Char := do
  let c ← next fun _ => true
  match c with
  | 'b' => return '\x08'
  | 't' => return '\t'
  | 'n' => return '\n'
  | 'f' => return '\x0c'
  | 'r' => return '\r'
  | '"' => return '"'
  | '\\' => return '\\'
  | 'u' => numbered 4
  | 'U' => numbered 8
  | _ => failure

/-- A character of a string with escapes. -/
def escapedChar : Scanner Char :=
  (char '\\' *> escaped) <|> next fun c => isPlain c && c != '"' && c != '\\'

/-- A string with escapes on one line. -/
def basic : Scanner (List Char) :=
  char '"' *> many escapedChar <* char '"'

/-- A string without escapes on one line. -/
def verbatim : Scanner (List Char) :=
  char '\'' *> takeWhile (fun c => isPlain c && c != '\'') <* char '\''

/-- A backslash at the end of a line takes away the end and all white space that follows. -/
def continuation : Scanner Unit := do
  char '\\'
  blanks
  newline
  discard (many (discard (takeWhile₁ isBlank) <|> newline))

/-- A part of a string with several lines. Three quotes in a row end the string; of four or five
the last three do. -/
def longPart (quote : Char) (part : Scanner (List Char)) : Scanner (List Char) := fun cs =>
  match (cs.takeWhile (· == quote)).length with
  | 0 => ((newline *> pure ['\n']) <|> part) cs
  | 1 | 2 | 4 | 5 => (List.singleton <$> next (· == quote)) cs
  | _ => none

/-- A string with several lines. An end of line after the opening quotes does not belong to it. -/
def long (quote : Char) (part : Scanner (List Char)) : Scanner (List Char) := do
  let three := String.ofList [quote, quote, quote]
  literal three
  discard (attempt newline)
  let parts ← many (longPart quote part)
  literal three
  return parts.flatten

/-- A string of any kind. -/
def quoted : Scanner String :=
  String.ofList <$>
    (long '"' ((continuation *> pure []) <|> (List.singleton <$> escapedChar))
      <|> long '\'' (List.singleton <$> next isPlain)
      <|> basic <|> verbatim)

/-! ## Keys -/

/-- A character of a name without quotes. -/
def isBare (c : Char) : Bool :=
  ('a' ≤ c && c ≤ 'z') || ('A' ≤ c && c ≤ 'Z') || c.isDigit || c == '_' || c == '-'

/-- One name of a key. -/
def name : Scanner String :=
  String.ofList <$> (basic <|> verbatim <|> takeWhile₁ isBare)

/-- The greatest depth to which values are nested. -/
def depthLimit : Nat := 79

/-- The names of a key, with points between them. -/
def key : Scanner (List String) := do
  let names ← separated (char '.') (blanks *> name <* blanks)
  if names.length ≤ depthLimit then return names else failure

end TypedRequests.TomlReader
