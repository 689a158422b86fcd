import TypedRequests.Toml.Scalar
import TypedRequests.Toml.Table

/-!
# Reading TOML text

* `value` : scalars, arrays and tables inside a line.
* `Statement` : what a line says.
* `Toml.ofText?` : the table of a text, if it is TOML.
-/

set_option autoImplicit false

namespace TypedRequests.TomlReader

open Text Text.Scanner

/-! ## Values -/

/-- An array whose items are read by `item`. It may run over lines, and a comma may follow the last
item. -/
def arrayOf (item : Scanner Toml) : Scanner Toml := do
  char '['
  let items ← attempt (separated (space *> char ',') (space *> item))
  if items.isSome then
    discard (attempt (space *> char ','))
  space
  char ']'
  return .array (items.getD [])

/-- A key with its value. -/
def entry (item : Scanner Toml) : Scanner (List String × Toml) := do
  let path ← key
  char '='
  blanks
  let v ← item
  return (path, v)

/-- The table with the given entries, if they do not contradict each other. -/
def tableOf? (entries : List (List String × Toml)) : Option Table :=
  entries.foldlM (fun t e => t.define e.1 e.2) Table.empty

/-- A table inside a line, whose values are read by `item`. -/
def inlineTableOf (item : Scanner Toml) : Scanner Toml := do
  char '\x7b'
  let entries ← attempt (separated (char ',') (entry item <* blanks))
  blanks
  char '\x7d'
  match tableOf? (entries.getD []) with
  | some t => return t.toValue
  | none => failure

/-- A value in which arrays and tables are nested at most `depth` deep. -/
def valueTo : (depth : Nat) → Scanner Toml
  | 0 => scalar
  | depth + 1 => scalar <|> arrayOf (valueTo depth) <|> inlineTableOf (valueTo depth)

/-- A value. -/
def value : Scanner Toml :=
  valueTo depthLimit

/-! ## Lines -/

/-- What a line says. -/
inductive Statement where
  /-- The following keys belong to a table. -/
  | table (path : List String)
  /-- The following keys belong to a new table at the end of an array. -/
  | tables (path : List String)
  | entry (path : List String) (v : Toml)
deriving Repr

/-- What a line says, without its end. -/
def statement : Scanner Statement :=
  (.tables <$> (literal "[[" *> key <* literal "]]"))
    <|> (.table <$> (char '[' *> key <* char ']'))
    <|> ((fun e => .entry e.1 e.2) <$> entry value)

/-- What the lines of a document say. A mark for the order of bytes may come first. -/
def statements : Scanner (List Statement) := do
  discard (attempt (char '\uFEFF'))
  space
  let all ← many (statement <* lineEnd <* space)
  discard (attempt comment)
  return all

/-! ## Documents -/

/-- The document so far, and the path of the table to which keys belong. -/
structure Progress where
  root : Table
  path : List String
deriving Repr

/-- What a statement does to the document. -/
def Progress.add (p : Progress) : Statement → Option Progress
  | .table path => (p.root.openTable path).map fun t => ⟨t, path⟩
  | .tables path => (p.root.openArray path).map fun t => ⟨t, path⟩
  | .entry path v => (Table.change false (Table.define path v) p.path p.root).map fun t => ⟨t, p.path⟩

end TypedRequests.TomlReader

namespace TypedRequests

open TomlReader in
/-- The table of a text, if it is TOML. -/
def Toml.ofText? (text : String) : Option Toml := do
  let all ← Text.Scanner.whole? statements text.toList
  let finished ← all.foldlM Progress.add ⟨Table.empty, []⟩
  return finished.root.toValue

end TypedRequests
