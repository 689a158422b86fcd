import TypedRequests.Command.Arguments
import TypedRequests.Command.Machine
import TypedRequests.Config.Settings
import TypedRequests.Json.Printer
import TypedRequests.Request.Generate
import TypedRequests.Source

/-!
# Running commands

* `CommandError` : why a command fails.
* `Command.perform` : a command, or the error that ends it.
* `invoke` : a whole command line, with its exit code.
-/

set_option autoImplicit false

namespace TypedRequests

open OpenApi Request

/-! ## Ends -/

/-- Why a command fails. -/
inductive CommandError where
  | unreadable (p : Path) (e : FileError)
  /-- The document is on another machine. -/
  | remote (location : String)
  /-- The text of the settings is no table. -/
  | settingsText (p : Path)
  /-- A value in a file of settings is invalid. -/
  | settingsValue (p : Path) (e : ConfigError)
  /-- The settings as a whole do not suffice for a run. -/
  | settings (e : ConfigError)
  | document (e : DocumentError)
  /-- The text of the document is no data at all. -/
  | documentText
  | model (e : GenerateError)
  | generate (e : GenerateError)
  | unwritable (p : Path) (e : FileError)
deriving DecidableEq, Repr

/-- The wording of an error, without what a reader says of the cause. -/
def CommandError.message : CommandError → String
  | unreadable p e => "Failed to read " ++ p.text ++ ": " ++ e.message
  | remote location => "Failed to fetch " ++ location
  | settingsText p => "Failed to parse " ++ p.text
  | settingsValue p e => p.text ++ ": " ++ e.message
  | settings e => e.message
  | document e => e.message
  | documentText => "Failed to parse document"
  | model e => "Failed to compile model module: " ++ e.message
  | generate e => "Generation failed: " ++ e.message
  | unwritable p e => "Failed to write " ++ p.text ++ ": " ++ e.message

/-- How a command line ends. -/
inductive Exit where
  | success
  | failure
  /-- The arguments make no sense. -/
  | misuse
deriving DecidableEq, Repr

/-- The number of an end. -/
def Exit.code : Exit → Nat
  | success => 0
  | failure => 1
  | misuse => 2

/-- The text of a time in milliseconds. -/
def durationText (ms : Nat) : String :=
  if ms < 1000 then toString ms ++ "ms"
  else toString (ms / 1000) ++ "s " ++ toString (ms % 1000) ++ "ms"

/-- The file of the settings, unless another is given. -/
def defaultSettingsFile : Path := ⟨"socg.toml"⟩

/-- The name and the version of the program. -/
def versionText : String := "socg 0.4.0"

/-- How the program is called. -/
def usageText : String :=
  "Usage: socg fetch URL [-o FILE]\n"
    ++ "       socg model URL -o FILE\n"
    ++ "       socg generate URL [-d DIR] [-m FILE] [-c FILE]"

variable {m : Type → Type} [Monad m]

namespace Machine

/-! ## Saying -/

/-- A line about what is finished. -/
def sayDone (x : Machine m) (text : String) : m Unit :=
  x.say ("✓ " ++ text)

/-- A line about what is finished, with the time since it began. -/
def sayTimed (x : Machine m) (start : Nat) (text : String) : m Unit := do
  x.sayDone (text ++ " (" ++ durationText ((← x.now) - start) ++ ")")

/-- The line about a tag. -/
def tagLine (t : TagOutput) : String :=
  "  " ++ t.tag ++ " " ++ t.endpoint.text ++ " (" ++ toString t.functions
    ++ (if t.functions = 1 then " function)" else " functions)")

/-- The lines about a run. -/
def sayReport (x : Machine m) (start : Nat) (r : Report) : m Unit := do
  if let some p := r.model then
    x.say ("  model " ++ p.text)
  r.tags.forM fun t => x.say (tagLine t)
  x.sayTimed start
    ("Generated " ++ toString r.functionCount ++ " functions in " ++ toString r.tags.length
      ++ " modules")

/-! ## Loading -/

/-- The text of a file. -/
def readText (x : Machine m) (p : Path) : ExceptT CommandError m String :=
  (ExceptT.mk (x.files.read p)).adapt (.unreadable p)

/-- The text at a location. -/
def loadText (x : Machine m) (location : String) : ExceptT CommandError m String :=
  if Source.isRemote location then throw (.remote location) else x.readText ⟨location⟩

/-- The document at a location. -/
def loadDocument (x : Machine m) (location : String) : ExceptT CommandError m Document := do
  let start ← x.now
  let text ← x.loadText location
  let d ← ExceptT.mk (pure ((x.readers.document location text).mapError .document))
  x.sayTimed start ("Loaded " ++ location)
  return d

/-- The settings in a file. Only a file that was asked for must be there. -/
def loadSettings (x : Machine m) (file : Option Path) : ExceptT CommandError m Settings := do
  let p := file.getD defaultSettingsFile
  if file.isNone && (← x.files.kind? p).isNone then return .empty
  let text ← x.readText p
  let some table := x.readers.toml? text | throw (.settingsText p)
  ExceptT.mk (pure ((Settings.ofToml table).mapError (.settingsValue p)))

/-! ## Commands -/

/-- The result of a run, after its notices. -/
def settle {α : Type} (x : Machine m) (o : Outcome α) : ExceptT GenerateError m α := do
  o.notices.forM fun n => (x.note n : m Unit)
  ExceptT.mk (pure o.result)

/-- A document as JSON: printed, or saved in a file. -/
def fetch (x : Machine m) (location : String) (output : Option Path) :
    ExceptT CommandError m Unit := do
  let start ← x.now
  let text ← x.loadText location
  if output.isSome then
    x.sayTimed start ("Fetched " ++ location)
  let some value := x.readers.value? location text | throw .documentText
  match output with
  | none => x.say value.pretty
  | some p =>
    (ExceptT.mk (x.files.writer.write p value.pretty)).adapt (.unwritable p)
    x.sayDone ("Saved document to " ++ p.text)

/-- The model module of a document, in a file. -/
def model (x : Machine m) (location : String) (output : Path) : ExceptT CommandError m Unit := do
  let d ← x.loadDocument location
  let o ← (writeModel d output x.files.writer : m (Outcome Unit))
  (x.settle o).adapt .model
  x.sayDone ("Wrote model module " ++ output.text)

/-- A whole run. All that the settings need is known before the document is loaded, and the
document is there before a file is touched. -/
def generate (x : Machine m) (location : String) (dir model file : Option Path) :
    ExceptT CommandError m Unit := do
  let start ← x.now
  let settings ← x.loadSettings file
  let (ctx, layout) ←
    ExceptT.mk (pure (((settings.override dir model).context x.readers).mapError .settings))
  let d ← x.loadDocument location
  let o ← (Request.generate d ctx layout x.files.writer : m (Outcome Report))
  let report ← (x.settle o).adapt .generate
  x.sayReport start report

end Machine

/-- A command, or the error that ends it. -/
def Command.perform (x : Machine m) : Command → ExceptT CommandError m Unit
  | .fetch location output => x.fetch location output
  | .model location output => x.model location output
  | .generate location dir modelFile settings => x.generate location dir modelFile settings

/-- A command with its end. -/
def Command.run (x : Machine m) (c : Command) : m Exit := do
  match ← (c.perform x).run with
  | .ok () => return .success
  | .error e =>
    x.complain e.message
    return .failure

/-- A whole command line. -/
def invoke (x : Machine m) (args : List String) : m Exit := do
  match Invocation.ofArguments args with
  | .run c => c.run x
  | .help =>
    x.say usageText
    return .success
  | .version =>
    x.say versionText
    return .success
  | .misuse =>
    x.complain usageText
    return .misuse

end TypedRequests
