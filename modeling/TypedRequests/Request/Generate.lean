import TypedRequests.Request.Assembly

/-!
# Runs

A run empties the output directory and writes the model module and the modules of every tag. Every
named schema becomes a declaration of the model module; those without a type are left out.

* `modelModule?` : the statements, with a notice for each schema left out.
* `modelTypeNames` : the names of all schemas as types.
* `writeModel` : the model module alone.
* `generate` : a whole run, with a `Report` of what was written.
-/

set_option autoImplicit false

namespace TypedRequests.Request

open OpenApi TypeScript

/-! ## The model module -/

/-- The declarations of named schemas. -/
def declareAll : List (String × Schema) → List Notice × Module
  | [] => ([], [])
  | (name, s) :: rest =>
    let (notices, statements) := declareAll rest
    match declare name s with
    | .ok d => (notices, d :: statements)
    | .error e => (.skippedComponent name e :: notices, statements)

/-- The statements of the model module, if the document names a schema. -/
def modelModule? (d : Document) : Option (List Notice × Module) :=
  d.schemas?.map fun m => declareAll m.entries

/-- The names of the schemas as types, each once. -/
def modelTypeNames (d : Document) : List String :=
  match d.schemas? with
  | some m => (m.keys.map Naming.withoutQuotes).eraseDups
  | none => []

/-! ## Runs -/

/-- What a run wrote. -/
structure Report where
  /-- The model module, if the document names a schema. -/
  model : Option Path
  tags : List TagOutput
deriving DecidableEq, Repr

/-- The number of functions. -/
def Report.functionCount (r : Report) : Nat :=
  r.tags.foldr (fun t n => t.functions + n) 0

/-- The number of files of a tag. -/
def TagOutput.fileCount (t : TagOutput) : Nat :=
  if t.query.isSome then 2 else 1

/-- The number of files. -/
def Report.fileCount (r : Report) : Nat :=
  r.tags.foldr (fun t n => t.fileCount + n) (if r.model.isSome then 1 else 0)

variable {m : Type → Type} [Monad m]

/-- The model module alone. -/
def writeModel (d : Document) (p : Path) (w : FileWriter m) : m (Outcome Unit) := do
  match modelModule? d with
  | none => return .fail (.document .noSchemas)
  | some (notices, module) => return ⟨notices, ← writeModule w p module.text⟩

/-- The model module of a run; a document that names no schema does without. -/
def writeModelOfRun (d : Document) (p : Path) (w : FileWriter m) : m (Outcome (Option Path)) := do
  match modelModule? d with
  | none => return ⟨[.noSchemas], .ok none⟩
  | some (notices, module) =>
    return ⟨notices, (← writeModule w p module.text).map fun _ => some p⟩

/-- The modules of tags, one after the other; the first failure ends the run. -/
def assembleAll (ctx : Context) (layout : OutputLayout) (modelTypes : List String)
    (w : FileWriter m) : List TagModule → m (Outcome (List TagOutput))
  | [] => return .pure []
  | module :: modules => do
    let o ← module.assemble ctx layout modelTypes w
    match o.result with
    | .error e => return ⟨o.notices, .error e⟩
    | .ok output =>
      let rest ← assembleAll ctx layout modelTypes w modules
      return (rest.map (output.toList ++ ·)).after o.notices

/-- The modules of all tags. -/
def writeTags (d : Document) (ctx : Context) (layout : OutputLayout) (w : FileWriter m) :
    m (Outcome (List TagOutput)) := do
  let o := extract d ctx
  match o.result with
  | .error e => return ⟨o.notices, .error e⟩
  | .ok modules =>
    return (← assembleAll ctx layout (modelTypeNames d) w modules).after o.notices

/-- A whole run. A document without a usable path ends it after the model module. -/
def generate (d : Document) (ctx : Context) (layout : OutputLayout) (w : FileWriter m) :
    m (Outcome Report) := do
  match ← w.emptyDir layout.dir with
  | .error e => return .fail (.write layout.dir e)
  | .ok () =>
    let model ← writeModelOfRun d layout.model w
    match model.result with
    | .error e => return ⟨model.notices, .error e⟩
    | .ok path =>
      return ((← writeTags d ctx layout w).map (Report.mk path)).after model.notices

end TypedRequests.Request
