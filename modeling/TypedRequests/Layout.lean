import TypedRequests.Path

/-!
# Layout of the output

* `OutputLayout` : where a run writes.
* `ImportStyle` : how imports are written.
-/

set_option autoImplicit false

namespace TypedRequests

/-- Where a run writes: the directory of the tag modules, and the model module. -/
structure OutputLayout where
  dir : Path
  model : Path
deriving DecidableEq, Repr

/-- The file of the model module, unless another is given. -/
def defaultModelFile : Path := ⟨"model.ts"⟩

/-- The layout in a directory; the model module lies in it unless its path is absolute. -/
def OutputLayout.inDir (dir : Path) (model : Option Path) : OutputLayout :=
  ⟨dir, dir.join (model.getD defaultModelFile)⟩

/-- How imports are written. -/
structure ImportStyle where
  /-- Sources keep the extension of the file. -/
  keepExtension : Bool
  /-- Imports say that the names are only used as types. -/
  typeOnly : Bool
deriving DecidableEq, Repr

/-- Sources without extension, and plain imports. -/
def ImportStyle.plain : ImportStyle :=
  ⟨false, false⟩

/-- The source of an import from a file. -/
def ImportStyle.source (style : ImportStyle) (file : String) : String :=
  if style.keepExtension then file
  else
    match Text.stripSuffix? ['.', 't', 's'] file.toList with
    | some stem => String.ofList stem
    | none => file

end TypedRequests
