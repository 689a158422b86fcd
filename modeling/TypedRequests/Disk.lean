import TypedRequests.FileSystem

/-!
# Disks

A disk is a tree of directories, files and symbolic links, with a current directory.

* `Disk` : what lies at each place.
* `Disk.place`, `Disk.slot` : where a path leads, step by step, through links. Each step needs a
  directory to stand in, also one that goes up or stays.
* `Disk.system` : a disk as a file system.
* `Disk.listing` : what lies inside the current directory.
-/

set_option autoImplicit false

namespace TypedRequests

/-- What lies at a place. -/
inductive DiskEntry where
  | directory
  | file (text : String)
  /-- A symbolic link, which leads on from the directory it lies in. -/
  | link (target : Path)
deriving DecidableEq, Repr

/-- The kind of an entry that is no link. -/
def DiskEntry.kind? : DiskEntry → Option FileKind
  | directory => some .directory
  | file _ => some .file
  | link _ => none

/-- A place on a disk: the names that lead there from the root. -/
abbrev Place := List String

/-- What lies at each place. The root is a directory and needs no entry. -/
structure Disk where
  entries : List (Place × DiskEntry)
  /-- The current directory. -/
  current : Place
deriving DecidableEq, Repr

namespace Disk

/-- A disk with one directory, which is the current one. -/
def withDirectory (name : String) : Disk :=
  ⟨[([name], .directory)], [name]⟩

/-! ## Places -/

/-- What lies at a place. -/
def look (d : Disk) (place : Place) : Option DiskEntry :=
  if place = [] then some .directory else d.entries.lookup place

/-- The disk with another entry at a place. -/
def put (d : Disk) (place : Place) (e : DiskEntry) : Disk :=
  { d with entries := (place, e) :: d.entries.filter fun entry => entry.1 != place }

/-- The place lies inside another. -/
def isInside (place dir : Place) : Bool :=
  dir.isPrefixOf place && place != dir

/-- The disk without what lies inside a place. -/
def clear (d : Disk) (dir : Place) : Disk :=
  { d with entries := d.entries.filter fun entry => !isInside entry.1 dir }

/-! ## Paths -/

/-- The longest name of a file, in bytes. -/
def longestName : Nat := 255

/-- The longest path, in bytes. -/
def longestPath : Nat := 4095

/-- The most links that a path may lead through. -/
def mostLinks : Nat := 40

/-- The path leads through too many links. -/
def tooManyLinks : FileError :=
  .other "Too many levels of symbolic links (os error 40)"

/-- One step from a place: a segment of a path between slashes. -/
def step (d : Disk) (place : Place) (segment : List Char) : Except FileError Place :=
  match d.look place with
  | none => .error .notFound
  | some (.file _) | some (.link _) => .error .notDirectory
  | some .directory =>
    match Path.innerPart segment with
    | none => .ok place
    | some .up => .ok place.dropLast
    | some part =>
      if part.text.utf8ByteSize > longestName then .error .nameTooLong
      else .ok (place ++ [part.text])

/-- Where steps along segments end. -/
inductive Stop where
  | here (place : Place)
  /-- A link in a directory, with the segments behind it. -/
  | link (dir : Place) (target : Path) (rest : List (List Char))
deriving DecidableEq, Repr

/-- Steps from a place along segments, up to the first link. A link at the very end is a place like
others if it is not to be followed. -/
def walk (d : Disk) (followLast : Bool) (place : Place) : List (List Char) → Except FileError Stop
  | [] => .ok (.here place)
  | segment :: rest =>
    match d.step place segment with
    | .error e => .error e
    | .ok next =>
      match d.look next with
      | some (.link target) =>
        if rest.isEmpty && !followLast then .ok (.here next) else .ok (.link place target rest)
      | _ => walk d followLast next rest

/-- Steps from a place along segments, through at most so many links. -/
def walkLinks (d : Disk) (followLast : Bool) (links : Nat) (place : Place)
    (segments : List (List Char)) : Except FileError Place :=
  match d.walk followLast place segments with
  | .error e => .error e
  | .ok (.here place) => .ok place
  | .ok (.link dir target rest) =>
    match links with
    | 0 => .error tooManyLinks
    | links + 1 =>
      walkLinks d followLast links (if target.isAbsolute then [] else dir) (target.segments ++ rest)

/-- Where segments of a path lead. Nothing need lie there. -/
def follow (d : Disk) (followLast : Bool) (p : Path) (segments : List (List Char)) :
    Except FileError Place :=
  if p.text = "" then .error .notFound
  else if p.text.toList.contains '\x00' then .error .invalidName
  else if p.text.utf8ByteSize > longestPath then .error .nameTooLong
  else d.walkLinks followLast mostLinks (if p.isAbsolute then [] else d.current) segments

/-- Where a path leads. -/
def place (d : Disk) (p : Path) : Except FileError Place :=
  d.follow true p p.segments

/-- Where a path leads that may have slashes at its end although nothing lies there yet. -/
def slot (d : Disk) (followLast : Bool) (p : Path) : Except FileError Place :=
  d.follow followLast p (p.segments.reverse.dropWhile List.isEmpty).reverse

/-! ## Operations -/

/-- What a path leads to, if anything. -/
def kind? (d : Disk) (p : Path) : Option FileKind :=
  match d.place p with
  | .ok place => (d.look place).bind DiskEntry.kind?
  | .error _ => none

/-- The text of a file. -/
def read (d : Disk) (p : Path) : Except FileError String := do
  match d.look (← d.place p) with
  | none => throw .notFound
  | some .directory => throw .isDirectory
  | some (.link _) => throw tooManyLinks
  | some (.file text) => return text

/-- The disk with a file, new or not. -/
def create (d : Disk) (p : Path) (text : String) : Except FileError Disk := do
  let place ← d.slot true p
  if p.endsInSlash || d.look place == some .directory then throw .isDirectory
  return d.put place (.file text)

/-- The disk with a new directory. It is not made where a link leads. -/
def makeDir (d : Disk) (p : Path) : Except FileError Disk := do
  let place ← d.slot false p
  if (d.look place).isSome then throw .alreadyExists
  return d.put place .directory

/-- The disk with nothing inside a directory. -/
def clearDir (d : Disk) (p : Path) : Except FileError Disk := do
  let place ← d.place p
  match d.look place with
  | none => throw .notFound
  | some (.file _) | some (.link _) => throw .notDirectory
  | some .directory => return d.clear place

/-- The path leads to the current directory, which must be there. -/
def isCurrent (d : Disk) (p : Path) : Except FileError Bool := do
  if (d.look d.current).isNone then throw .notFound
  return (← d.place p) == d.current

/-! ## As a file system -/

/-- A look at the disk. -/
def observe {α : Type} (f : Disk → α) : StateM Disk α := fun d => (f d, d)

/-- A change of the disk, which stays as it is if the change fails. -/
def change (f : Disk → Except FileError Disk) : StateM Disk (Except FileError Unit) := fun d =>
  match f d with
  | .ok d' => (.ok (), d')
  | .error e => (.error e, d)

/-- A disk as a file system. -/
def system : FileSystem (StateM Disk) where
  kind? p := observe fun d => d.kind? p
  read p := observe fun d => d.read p
  create p text := change fun d => d.create p text
  makeDir p := change fun d => d.makeDir p
  clearDir p := change fun d => d.clearDir p
  isCurrent p := observe fun d => d.isCurrent p

/-! ## Listing -/

/-- An entry as a listing shows it: its path from a directory, and the text of a file. A slash ends
the path of a directory, and an at sign that of a link. -/
def listed (dir : Place) (entry : Place × DiskEntry) : String × Option String :=
  let path := "/".intercalate (entry.1.drop dir.length)
  match entry.2 with
  | .directory => (path ++ "/", none)
  | .link _ => (path ++ "@", none)
  | .file text => (path, some text)

/-- What lies inside the current directory, in the order of the paths. -/
def listing (d : Disk) : List (String × Option String) :=
  let inside := d.entries.filter fun entry => isInside entry.1 d.current
  (inside.map (listed d.current)).mergeSort fun a b => a.1 ≤ b.1

end Disk

end TypedRequests
