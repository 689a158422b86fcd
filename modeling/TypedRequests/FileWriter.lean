import TypedRequests.Path

/-!
# Files

* `FileError` : why an operation on files fails.
* `FileWriter` : what a run needs to write its output.
* `FileMap` : files in memory, with `FileMap.writer` as their writer.
-/

set_option autoImplicit false

namespace TypedRequests

/-! ## Errors -/

/-- Why an operation on files fails. -/
inductive FileError where
  | notFound
  | alreadyExists
  | notDirectory
  | isDirectory
  /-- No file can have the name. -/
  | invalidName
  | nameTooLong
  /-- The path is not to be written. -/
  | readOnly
  /-- The directory is not to be emptied. -/
  | refused (p : Path)
  /-- Another cause, in its own words. -/
  | other (message : String)
deriving DecidableEq, Repr

/-- The wording of an error. -/
def FileError.message : FileError → String
  | notFound => "No such file or directory (os error 2)"
  | alreadyExists => "File exists (os error 17)"
  | notDirectory => "Not a directory (os error 20)"
  | isDirectory => "Is a directory (os error 21)"
  | invalidName => "file name contained an unexpected NUL byte"
  | nameTooLong => "File name too long (os error 36)"
  | readOnly => "read-only"
  | refused p => "refusing to empty " ++ p.text
  | other message => message

/-! ## Writers -/

/-- What a run needs to write its output. -/
structure FileWriter (m : Type → Type) where
  /-- The file and its directories exist afterwards. -/
  ensureFile : Path → m (Except FileError Unit)
  /-- The file has the given text afterwards. -/
  writeFile : Path → String → m (Except FileError Unit)
  /-- The directory exists afterwards and is empty. -/
  emptyDir : Path → m (Except FileError Unit)

/-- A file with its directories and its text. -/
def FileWriter.write {m : Type → Type} [Monad m] (w : FileWriter m) (p : Path) (text : String) :
    m (Except FileError Unit) := do
  match ← w.ensureFile p with
  | .ok () => w.writeFile p text
  | .error e => return .error e

/-! ## Files in memory -/

/-- Files in memory, in the order of their paths. A file keeps the path that it was first written
with. -/
structure FileMap where
  entries : List (Path × String)
deriving DecidableEq, Repr

namespace FileMap

/-- No files. -/
def empty : FileMap :=
  ⟨[]⟩

/-- The text of the entry with the parts of a path. -/
def findIn (p : Path) : List (Path × String) → Option String
  | [] => none
  | (q, text) :: es => if q.same p then some text else findIn p es

/-- The text of a file. -/
def find? (m : FileMap) (p : Path) : Option String :=
  findIn p m.entries

/-- The entries with a text for a path. -/
def putIn (p : Path) (text : String) : List (Path × String) → List (Path × String)
  | [] => [(p, text)]
  | (q, old) :: es =>
    if q.same p then (q, text) :: es
    else if p.before q then (p, text) :: (q, old) :: es
    else (q, old) :: putIn p text es

/-- The files with a text for a path. -/
def put (m : FileMap) (p : Path) (text : String) : FileMap :=
  ⟨putIn p text m.entries⟩

/-- The files outside a directory. -/
def eraseUnder (m : FileMap) (dir : Path) : FileMap :=
  ⟨m.entries.filter fun e => !e.1.startsWith dir⟩

/-- The files, among them one for the path, empty if it is new. -/
def ensure (m : FileMap) (p : Path) : FileMap :=
  match m.find? p with
  | some _ => m
  | none => m.put p ""

/-- An operation on a path, which fails on those in `failing`. -/
def guarded (failing : List Path) (p : Path) (f : FileMap → FileMap) :
    StateM FileMap (Except FileError Unit) := fun m =>
  if failing.any p.same then (.error .readOnly, m) else (.ok (), f m)

/-- The writer of files in memory, which fails on the paths in `failing`. -/
def writer (failing : List Path) : FileWriter (StateM FileMap) where
  ensureFile p := guarded failing p fun m => m.ensure p
  writeFile p text := guarded failing p fun m => m.put p text
  emptyDir p := guarded failing p fun m => m.eraseUnder p

end FileMap

end TypedRequests
