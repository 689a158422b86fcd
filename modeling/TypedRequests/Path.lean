import TypedRequests.Text.Blank
import TypedRequests.Text.Replace

/-!
# Paths

A path is kept as it is written. Two paths are the same file if they have the same parts: repeated
slashes, a slash at the end and `.` between slashes do not matter, a leading `.` does.

* `Path.parts` : the parts of a path.
* `Path.join`, `Path.ancestors`, `Path.parent?`, `Path.startsWith` : the operations.
* `Path.relativeSource` : how a module in one directory names a file elsewhere.
-/

set_option autoImplicit false

namespace TypedRequests

/-- A part of a path. -/
inductive PathPart where
  | root
  | here
  | up
  | name (s : String)
deriving DecidableEq, Repr

/-- The text of a part. -/
def PathPart.text : PathPart → String
  | root => "/"
  | here => "."
  | up => ".."
  | name s => s

/-- The place of a part's kind in the order of parts. -/
def PathPart.rank : PathPart → Nat
  | root => 0
  | here => 1
  | up => 2
  | name _ => 3

/-- The order of parts: by kind, then by name. -/
def PathPart.before (a b : PathPart) : Bool :=
  match a, b with
  | name s, name t => s < t
  | a, b => a.rank < b.rank

/-- The order of lists of parts, as in a dictionary. -/
def PathPart.listBefore : List PathPart → List PathPart → Bool
  | [], [] => false
  | [], _ :: _ => true
  | _ :: _, [] => false
  | a :: as, b :: bs => if a = b then listBefore as bs else a.before b

/-- A path as it is written. -/
structure Path where
  text : String
deriving DecidableEq, Repr

namespace Path

/-- The part that a segment between slashes stands for, if any. -/
def innerPart (segment : List Char) : Option PathPart :=
  if segment = [] ∨ segment = ['.'] then none
  else if segment = ['.', '.'] then some .up
  else some (.name (String.ofList segment))

/-- The path begins at the root. -/
def isAbsolute (p : Path) : Bool :=
  p.text.toList.head? == some '/'

/-- The segments of a path between slashes. -/
def segments (p : Path) : List (List Char) :=
  Text.splitOn '/' p.text.toList

/-- The parts of a path. -/
def parts (p : Path) : List PathPart :=
  let inner := p.segments.filterMap innerPart
  if p.isAbsolute then .root :: inner
  else if p.segments.head? = some ['.'] then .here :: inner
  else inner

/-- The two paths have the same parts. -/
def same (p q : Path) : Bool :=
  p.parts == q.parts

/-- The order of paths, by their parts. -/
def before (p q : Path) : Bool :=
  PathPart.listBefore p.parts q.parts

/-- The path ends in a slash. -/
def endsInSlash (p : Path) : Bool :=
  p.text.toList.getLast? == some '/'

/-- A path inside a directory. An absolute path stands for itself. -/
def join (dir p : Path) : Path :=
  if p.isAbsolute then p
  else if dir.text = "" ∨ dir.endsInSlash then ⟨dir.text ++ p.text⟩
  else ⟨dir.text ++ "/" ++ p.text⟩

/-- The text of parts. -/
def textOfParts : List PathPart → String
  | .root :: ps => "/" ++ "/".intercalate (ps.map PathPart.text)
  | ps => "/".intercalate (ps.map PathPart.text)

/-- A path with the given parts. -/
def ofParts (ps : List PathPart) : Path :=
  ⟨textOfParts ps⟩

/-- The parts above the last one, the longest first. Here the last part stands first. Nothing is
above the root. -/
def above : List PathPart → List (List PathPart)
  | [] | [.root] => []
  | _ :: ps => ps :: above ps

/-- The directories above a path, the nearest first. The last one is the root or the empty path. -/
def ancestors (p : Path) : List Path :=
  (above p.parts.reverse).map fun ps => ofParts ps.reverse

/-- The path without its last part; the root and the empty path have none. -/
def parent? (p : Path) : Option Path :=
  p.ancestors.head?

/-- The path is the directory or lies inside it. -/
def startsWith (p dir : Path) : Bool :=
  dir.parts.isPrefixOf p.parts

/-! ## Relative sources -/

/-- Two lists without their longest common prefix. -/
def dropCommon : List PathPart → List PathPart → List PathPart × List PathPart
  | a :: as, b :: bs => if a = b then dropCommon as bs else (a :: as, b :: bs)
  | as, bs => (as, bs)

/-- The parts of a path that move in the file system. -/
def steps (p : Path) : List PathPart :=
  p.parts.filter (· ≠ .here)

/-- How a module in `dir` names the file `target`: up from the directory to what both have in
common, and down from there. It begins with `./` unless it begins with two points. -/
def relativeSource (dir target : Path) : String :=
  let (up, down) := dropCommon dir.steps target.steps
  let text := "/".intercalate (up.map (fun _ => "..") ++ down.map PathPart.text)
  if (Text.stripPrefix? ['.', '.'] text.toList).isSome then text else "./" ++ text

end Path

end TypedRequests
