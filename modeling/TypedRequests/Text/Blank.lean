/-!
# White space and lines

* `isBlank` : the property White_Space of Unicode.
* `trimStart`, `trimEnd`, `trim` : white space removed from the ends of a text.
* `lines` : a text cut at its line ends, which are `\n` or `\r\n`.
-/

set_option autoImplicit false

namespace TypedRequests.Text

/-- The character is white space. -/
def isBlank (c : Char) : Bool :=
  let n := c.toNat
  (9 ≤ n && n ≤ 13) || n == 0x20 || n == 0x85 || n == 0xA0 || n == 0x1680
    || (0x2000 ≤ n && n ≤ 0x200A) || n == 0x2028 || n == 0x2029 || n == 0x202F || n == 0x205F
    || n == 0x3000

/-- The text without the longest suffix whose characters all satisfy `p`. -/
def dropRightWhile (p : Char → Bool) (cs : List Char) : List Char :=
  (cs.reverse.dropWhile p).reverse

/-- The text without leading white space. -/
def trimStart (cs : List Char) : List Char :=
  cs.dropWhile isBlank

/-- The text without trailing white space. -/
def trimEnd (cs : List Char) : List Char :=
  dropRightWhile isBlank cs

/-- The text without white space at its ends. -/
def trim (cs : List Char) : List Char :=
  trimEnd (trimStart cs)

/-- A string without white space at its ends. -/
def trimmed (s : String) : String :=
  String.ofList (trim s.toList)

/-- Every character of the string is white space. -/
def isAllBlank (s : String) : Bool :=
  s.toList.all isBlank

/-! ## Lines -/

/-- The pieces between the separators; a text without separator is one piece. -/
def splitOn (separator : Char) : List Char → List (List Char)
  | [] => [[]]
  | c :: cs =>
    if c = separator then [] :: splitOn separator cs
    else
      match splitOn separator cs with
      | [] => [[c]]
      | piece :: pieces => (c :: piece) :: pieces

theorem splitOn_ne_nil (separator : Char) (cs : List Char) : splitOn separator cs ≠ [] := by
  cases cs with
  | nil => simp [splitOn]
  | cons c cs =>
    simp only [splitOn]
    split
    · simp
    · split <;> simp

/-- A line without the carriage return before its line feed. -/
def chomp (line : List Char) : List Char :=
  match line.getLast? with
  | some '\r' => line.dropLast
  | _ => line

/-- The lines among the pieces between line feeds: each piece but the last was ended by a line
feed, and an empty last piece is no line. -/
def linesOfPieces : List (List Char) → List (List Char)
  | [] => []
  | [last] => if last = [] then [] else [last]
  | piece :: pieces => chomp piece :: linesOfPieces pieces

/-- The lines of a text. -/
def lines (cs : List Char) : List (List Char) :=
  linesOfPieces (splitOn '\n' cs)

end TypedRequests.Text
