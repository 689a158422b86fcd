import TypedRequests.Path

/-!
# Command lines

* `Command` : a command with its arguments.
* `Invocation.ofArguments` : what a command line asks for. Arguments are read from left to right,
  and the first that asks for help or makes no sense decides.
-/

set_option autoImplicit false

namespace TypedRequests

/-- A command with its arguments. -/
inductive Command where
  /-- A document as JSON, which is printed or saved. -/
  | fetch (location : String) (output : Option Path)
  /-- The model module alone. -/
  | model (location : String) (output : Path)
  /-- A whole run. -/
  | generate (location : String) (dir model settings : Option Path)
deriving DecidableEq, Repr

/-- What a command line asks for. -/
inductive Invocation where
  | run (c : Command)
  | help
  | version
  /-- The arguments make no sense. -/
  | misuse
deriving DecidableEq, Repr

/-! ## Arguments -/

/-- One argument of a command line. -/
inductive Argument where
  /-- Two dashes: all that follows is plain. -/
  | separator
  /-- A name after two dashes, with the value after an equals sign. -/
  | long (name : String) (value : Option String)
  /-- A letter after one dash, with what follows. -/
  | short (letter : Char) (rest : List Char)
  | plain (s : String)
deriving DecidableEq, Repr

/-- The argument that a string is. One dash alone is plain. -/
def Argument.ofString (s : String) : Argument :=
  match s.toList with
  | ['-', '-'] => .separator
  | '-' :: '-' :: cs =>
    let value := match cs.dropWhile (· != '=') with
      | [] => none
      | _ :: value => some (String.ofList value)
    .long (String.ofList (cs.takeWhile (· != '='))) value
  | '-' :: c :: cs => .short c cs
  | _ => .plain s

/-- The value that follows the letter of an option, if any. An equals sign may stand before it. -/
def attachedValue : List Char → Option String
  | [] => none
  | '=' :: value => some (String.ofList value)
  | value => some (String.ofList value)

/-- An option of a command; its value is a path. -/
structure PathOption where
  letter : Char
  name : String
deriving DecidableEq, Repr

/-- What was read of the arguments of a command. -/
structure Arguments where
  location : Option String
  paths : List (PathOption × Path)
  /-- An option that waits for its value. -/
  pending : Option PathOption
  /-- What follows is plain. -/
  plainOnly : Bool
deriving DecidableEq, Repr

namespace Arguments

/-- Nothing was read. -/
def start : Arguments :=
  ⟨none, [], none, false⟩

/-- The path of an option, if it was given. -/
def path? (a : Arguments) (o : PathOption) : Option Path :=
  a.paths.lookup o

/-- A location, which may be given once. -/
def withLocation (a : Arguments) (s : String) : Except Invocation Arguments :=
  match a.location with
  | none => .ok { a with location := some s }
  | some _ => .error .misuse

/-- The path of an option, which is not empty and may be given once. -/
def withPath (a : Arguments) (o : PathOption) (value : String) : Except Invocation Arguments :=
  if value = "" || (a.path? o).isSome then .error .misuse
  else .ok { a with paths := (o, ⟨value⟩) :: a.paths, pending := none }

/-- An option, if it is known. Without a value it waits for one. -/
def withOption (a : Arguments) (o : Option PathOption) (value : Option String) :
    Except Invocation Arguments :=
  match o, value with
  | none, _ => .error .misuse
  | some o, some value => a.withPath o value
  | some o, none => .ok { a with pending := some o }

/-- One more argument. -/
def step (options : List PathOption) (a : Arguments) (s : String) : Except Invocation Arguments :=
  if a.plainOnly then a.withLocation s
  else
    match a.pending, Argument.ofString s with
    | some o, .plain value => a.withPath o value
    | some _, _ => .error .misuse
    | none, .plain s => a.withLocation s
    | none, .separator => .ok { a with plainOnly := true }
    | none, .long "help" none => .error .help
    | none, .long name value => a.withOption (options.find? fun o => o.name == name) value
    | none, .short 'h' _ => .error .help
    | none, .short c rest => a.withOption (options.find? fun o => o.letter == c) (attachedValue rest)

/-- The command that was read, if nothing is missing. -/
def command (a : Arguments) (build : String → Option Command) : Invocation :=
  match a.pending, a.location with
  | none, some location => (build location).elim .misuse .run
  | _, _ => .misuse

end Arguments

/-! ## Commands -/

namespace Invocation

/-- The file that a command writes. -/
def outputOption : PathOption := ⟨'o', "output"⟩

/-- The directory of a run. -/
def dirOption : PathOption := ⟨'d', "dir"⟩

/-- The model module of a run. -/
def modelOption : PathOption := ⟨'m', "model"⟩

/-- The file with the settings of a run. -/
def settingsOption : PathOption := ⟨'c', "config"⟩

/-- The arguments of a command that has the given options. -/
def ofOptions (options : List PathOption) (build : Arguments → String → Option Command)
    (args : List String) : Invocation :=
  match args.foldlM (Arguments.step options) .start with
  | .error i => i
  | .ok a => a.command (build a)

/-- The arguments of `fetch`. -/
def ofFetch : List String → Invocation :=
  ofOptions [outputOption] fun a location => some (.fetch location (a.path? outputOption))

/-- The arguments of `model`. -/
def ofModel : List String → Invocation :=
  ofOptions [outputOption] fun a location => (a.path? outputOption).map (.model location)

/-- The arguments of `generate`. -/
def ofGenerate : List String → Invocation :=
  ofOptions [dirOption, modelOption, settingsOption] fun a location =>
    some (.generate location (a.path? dirOption) (a.path? modelOption) (a.path? settingsOption))

/-- The arguments of `help`: at most the name of a command. -/
def ofHelp : List String → Invocation
  | [] => .help
  | [name] => if name ∈ ["fetch", "model", "generate", "help"] then .help else .misuse
  | _ => .misuse

/-- What a command line asks for. Without arguments it asks for help. -/
def ofArguments : List String → Invocation
  | [] => .help
  | arg :: args =>
    match Argument.ofString arg with
    | .plain "fetch" => ofFetch args
    | .plain "model" => ofModel args
    | .plain "generate" => ofGenerate args
    | .plain "help" => ofHelp args
    | .separator => if args.isEmpty then .help else .misuse
    | .long "help" none | .short 'h' _ => .help
    | .long "version" none | .short 'V' _ => .version
    | _ => .misuse

end Invocation

end TypedRequests
