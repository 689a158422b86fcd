import TypedRequests.Command.Run

/-!
# The program

The machine on which the program runs, and its entry point.
-/

set_option autoImplicit false

open TypedRequests Request

/-! ## Files -/

/-- The cause of a failed operation. -/
def fileErrorOf : IO.Error → FileError
  | .noFileOrDirectory .. => .notFound
  | .alreadyExists .. => .alreadyExists
  | .inappropriateType _ 21 _ => .isDirectory
  | .inappropriateType _ 20 _ => .notDirectory
  | e => .other (toString e)

/-- An operation with the cause of its failure. -/
def attemptFile {α : Type} (op : IO α) : IO (Except FileError α) := do
  return (← op.toBaseIO).mapError fileErrorOf

/-- What a path leads to, if anything. -/
def kindOnMachine (p : Path) : IO (Option FileKind) := do
  match ← (IO.FS.realPath p.text).toBaseIO with
  | .error _ => return none
  | .ok real => return some (if ← real.isDir then .directory else .file)

/-- Removes all that lies inside a directory. -/
def clearOnMachine (p : Path) : IO Unit := do
  for entry in ← (← IO.FS.realPath p.text).readDir do
    if (← entry.path.symlinkMetadata).type == .dir then IO.FS.removeDirAll entry.path
    else IO.FS.removeFile entry.path

/-- The files of the machine. -/
def machineFiles : FileSystem IO where
  kind? := kindOnMachine
  read p := attemptFile (IO.FS.readFile p.text)
  create p text := attemptFile (IO.FS.writeFile p.text text)
  makeDir p := attemptFile (IO.FS.createDir p.text)
  clearDir p := attemptFile (clearOnMachine p)
  isCurrent p := attemptFile do
    return (← IO.FS.realPath p.text) == (← IO.FS.realPath (← IO.currentDir))

/-! ## Notices -/

/-- The line about a notice. -/
def noticeLine (n : Notice) : String :=
  let level := match n.level with
    | .warning => "WARN "
    | .error => "ERROR "
  level ++ n.message ++ String.join (n.fields.map fun f => " " ++ f.1 ++ "=" ++ f.2)

/-- The notices that a setting of the environment lets through. -/
def isShown (setting : Option String) (n : Notice) : Bool :=
  match setting.map fun s => s.map Char.toLower with
  | some "off" => false
  | some "error" => n.level == .error
  | _ => true

/-! ## The machine -/

/-- The machine on which the program runs. -/
def thisMachine : Machine IO where
  files := machineFiles
  readers := .builtin
  now := IO.monoMsNow
  say := IO.println
  complain := IO.eprintln
  note n := do
    if isShown (← IO.getEnv "SOCG_LOG") n then
      IO.eprintln (noticeLine n)

def main (args : List String) : IO UInt32 := do
  return (← invoke thisMachine args).code.toUInt32
