import TypedRequests.OpenApi.Document.Reading
import TypedRequests.Template.Reader
import TypedRequests.Template.Render
import TypedRequests.Toml.Reader

/-!
# Readers

Commands read texts in several languages: documents in JSON and YAML, settings in TOML, and
templates inside of settings. What a command does depends on what the readers answer, and not on how
they read.

* `Renderer` : a template that was read.
* `Readers` : a reader for each use of a language.
* `Readers.builtin` : the readers of this library. The one of YAML and the one of templates know a
  part of their languages only; their modules say which.
-/

set_option autoImplicit false

namespace TypedRequests

open OpenApi

/-- A template that was read: the text that it makes of values for its variables, or a message why
there is none. -/
abbrev Renderer := List (String × String) → Except String String

/-- The readers on which commands rely. Each of them may refuse a text. -/
structure Readers where
  jsonDocument : String → Except DocumentError Document
  yamlDocument : String → Except DocumentError Document
  jsonValue? : String → Option Json
  yamlValue? : String → Option Json
  /-- The table of a file of settings. -/
  toml? : String → Option Toml
  /-- The template of a name and a text. -/
  template? : String → String → Option Renderer

/-- A template as a renderer. The values of its variables are strings. -/
def Template.renderer (t : Template) : Renderer := fun values =>
  t.render (values.map fun v => (v.1, .string v.2))

/-- The readers of this library. -/
def Readers.builtin : Readers where
  jsonDocument := Document.ofJsonText
  yamlDocument := Document.ofYamlText
  jsonValue? := Json.ofText?
  yamlValue? text := (Node.ofYamlText? text).bind Node.toJson?
  toml? := Toml.ofText?
  template? name text := (Template.ofText? name text).map Template.renderer

@[simp] theorem Readers.builtin_template? (name text : String) :
    Readers.builtin.template? name text = (Template.ofText? name text).map Template.renderer :=
  rfl

end TypedRequests
