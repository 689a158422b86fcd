import TypedRequests.FileWriter

/-!
# File systems

A run writes files with a few operations of a file system.

* `FileSystem` : these operations.
* `FileSystem.makeDirs`, `FileSystem.ensureFile`, `FileSystem.emptyDir` : what is built from them.
  The current directory is never emptied.
* `FileSystem.writer` : a file system as a writer.
-/

set_option autoImplicit false

namespace TypedRequests

/-- What a path leads to. -/
inductive FileKind where
  | file
  | directory
deriving DecidableEq, Repr

/-- The operations of a file system. -/
structure FileSystem (m : Type → Type) where
  /-- What the path leads to, if anything. -/
  kind? : Path → m (Option FileKind)
  /-- The text of a file. -/
  read : Path → m (Except FileError String)
  /-- The file has the given text afterwards; its directory must be there. -/
  create : Path → String → m (Except FileError Unit)
  /-- A new directory; the one above it must be there. -/
  makeDir : Path → m (Except FileError Unit)
  /-- The directory is empty afterwards. -/
  clearDir : Path → m (Except FileError Unit)
  /-- The path, which leads somewhere, leads to the current directory. -/
  isCurrent : Path → m (Except FileError Bool)

namespace FileSystem

variable {m : Type → Type} [Monad m]

/-! ## Directories -/

/-- An attempt to make a directory, which is no failure if the directory is there. -/
def unlessPresent (fs : FileSystem m) (p : Path) :
    Except FileError Unit → m (Except FileError Unit)
  | .ok () => return .ok ()
  | .error e => do
    return if (← fs.kind? p) = some .directory then .ok () else .error e

/-- The first of the paths as a directory. The others are the directories above it, the nearest
first; they are made if one is missing. -/
def makeChain (fs : FileSystem m) : List Path → m (Except FileError Unit)
  | [] => return .ok ()
  | p :: ps => do
    if p.text = "" then return .ok ()
    match ← fs.makeDir p with
    | .error .notFound =>
      match ← fs.makeChain ps with
      | .ok () => fs.unlessPresent p (← fs.makeDir p)
      | .error e => return .error e
    | r => fs.unlessPresent p r

/-- A directory, with those above it. -/
def makeDirs (fs : FileSystem m) (p : Path) : m (Except FileError Unit) :=
  fs.makeChain (p :: p.ancestors)

/-- The directory of a file, with those above it. -/
def makeParent (fs : FileSystem m) (p : Path) : m (Except FileError Unit) :=
  match p.parent? with
  | some dir => fs.makeDirs dir
  | none => return .ok ()

/-! ## Files -/

/-- A file, empty if it is new, with its directories. -/
def ensureFile (fs : FileSystem m) (p : Path) : m (Except FileError Unit) := do
  match ← fs.makeParent p with
  | .error e => return .error e
  | .ok () =>
    match ← fs.kind? p with
    | some _ => return .ok ()
    | none => fs.create p ""

/-! ## Emptying -/

/-- A path that is not to be emptied: the root, the empty path and the current directory. -/
def isProtected (fs : FileSystem m) (p : Path) : m (Except FileError Bool) := do
  if p.parent?.isNone then return .ok true
  match ← fs.kind? p with
  | some _ => fs.isCurrent p
  | none => return .ok false

/-- An empty directory, new or not. -/
def emptyDir (fs : FileSystem m) (p : Path) : m (Except FileError Unit) := do
  match ← fs.isProtected p with
  | .error e => return .error e
  | .ok true => return .error (.refused p)
  | .ok false =>
    match ← fs.kind? p with
    | some _ => fs.clearDir p
    | none => fs.makeDirs p

/-- A file system as a writer. -/
def writer (fs : FileSystem m) : FileWriter m where
  ensureFile := fs.ensureFile
  writeFile := fs.create
  emptyDir := fs.emptyDir

end FileSystem

end TypedRequests
