import TypedRequests.Template.Meaning

/-!
# The text of a template

* `Template.render` : the text of a template in a scope, or a message why there is none.
-/

set_option autoImplicit false

namespace TypedRequests

namespace Template

/-- The text so far and the variables. -/
structure Progress where
  text : String
  scope : Scope
deriving Repr

/-- What writing a value does. -/
def Progress.write (p : Progress) (v : Scalar) : Progress :=
  ⟨p.text ++ written v, p.scope⟩

/-- What giving a variable a value does. -/
def Progress.define (p : Progress) (name : String) (v : Scalar) : Progress :=
  ⟨p.text, (name, v) :: p.scope⟩

mutual

/-- What a block does. -/
def Block.run (template : String) (p : Progress) : Block → Except Fault Progress
  | .text s => .ok (p.write (.string s))
  | .print e => (e.meaning template p.scope).value.map p.write
  | .set name e => (e.meaning template p.scope).value.map (p.define name)
  | .choice branches otherwise =>
    match Block.runFirst template p branches with
    | .ok (some p) => .ok p
    | .ok none => Block.runAll template p otherwise
    | .error e => .error e

/-- What blocks do, one after the other. -/
def Block.runAll (template : String) (p : Progress) : List Block → Except Fault Progress
  | [] => .ok p
  | b :: bs =>
    match b.run template p with
    | .ok p => Block.runAll template p bs
    | .error e => .error e

/-- What the first branch whose condition holds does, if there is one. -/
def Block.runFirst (template : String) (p : Progress) :
    List (Expr × List Block) → Except Fault (Option Progress)
  | [] => .ok none
  | (condition, body) :: branches =>
    match (condition.meaning template p.scope).truth with
    | .ok true => (Block.runAll template p body).map some
    | .ok false => Block.runFirst template p branches
    | .error e => .error e

end

end Template

/-- The text of a template in a scope, or a message why there is none. -/
def Template.render (t : Template) (scope : Template.Scope) : Except String String :=
  match Template.Block.runAll t.name ⟨"", scope⟩ t.blocks with
  | .ok p => .ok p.text
  | .error e => .error ("Failed to render '" ++ t.name ++ "': " ++ e.message)

end TypedRequests
