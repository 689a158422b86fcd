import TypedRequests.Json.Token
import TypedRequests.Node

/-!
# Reading JSON text

The tokens of a text are read by a machine with a stack of open lists and records.

* `JsonReader.step` : what a token does to the machine.
* `Node.ofJsonText?` : the data of a JSON text.
* `Json.ofText?` : the value of a JSON text.

Lists and records nested more than 127 deep can be passed over but not read.
-/

set_option autoImplicit false

namespace TypedRequests

namespace JsonReader

/-- A list or record whose end is still to come; its parts are in reverse order. -/
inductive Open where
  | list (items : List Node)
  | record (entries : List (Leaf × Node))
  /-- A record that waits for the value of a key. -/
  | entry (entries : List (Leaf × Node)) (key : Leaf)
deriving Repr

/-- What may come next. -/
inductive Expecting where
  | value
  | itemOrEnd
  | keyOrEnd
  | key
  | colon
  | commaOrEnd
  | nothing (result : Node)
deriving Repr

/-- The state between two tokens. -/
structure State where
  stack : List Open
  expecting : Expecting
deriving Repr

/-- Nothing is read. -/
def State.start : State :=
  ⟨[], .value⟩

/-- The greatest depth of what can be read. -/
def depthLimit : Nat := 127

/-- The state after a whole value, where `stack` is open around it. -/
def complete (n : Node) : List Open → Option State
  | [] => some ⟨[], .nothing n⟩
  | .list items :: stack => some ⟨.list (n :: items) :: stack, .commaOrEnd⟩
  | .entry entries key :: stack => some ⟨.record ((key, n) :: entries) :: stack, .commaOrEnd⟩
  | .record _ :: _ => none

/-- The state after the end of a list or record, which is unreadable when it lies too deep. -/
def close (n : Node) (stack : List Open) : Option State :=
  complete (if stack.length < depthLimit then n else .unreadable) stack

/-- The value of an integer: a word of 64 bits if it fits, else a floating-point number. The zero
with a minus sign is a floating-point number too. -/
def integerScalar (d : DecimalLiteral) : Option Scalar :=
  let n := valueOfDigits 10 d.whole
  if d.negative then
    if n = 0 then some (.real (.finite true 0 Binary64.leastExponent))
    else if fitsSigned 64 (-n) then some (.integer (-n))
    else if n < DecimalLiteral.wordBound then some (.real (Binary64.ofNat n).neg)
    else d.scaled?.map .real
  else if n < DecimalLiteral.wordBound then some (.integer n)
  else d.scaled?.map .real

/-- The scalar of a token, if it is one. -/
def leaf? : JsonToken → Option Leaf
  | .null => some (.ofScalar .null)
  | .bool b => some (.ofScalar (.bool b))
  | .integer d => some ⟨none, integerScalar d⟩
  | .decimal d => some ⟨none, d.scaled?.map .real⟩
  | .string (some s) => some (.string s)
  | .string none => some .unreadable
  | _ => none

/-- The state after the first token of a value. -/
def beginValue (stack : List Open) (t : JsonToken) : Option State :=
  match t with
  | .openList => some ⟨.list [] :: stack, .itemOrEnd⟩
  | .openRecord => some ⟨.record [] :: stack, .keyOrEnd⟩
  | t =>
    match leaf? t with
    | some l => complete (.leaf l) stack
    | none => none

/-- The state after a key, which is a string. -/
def beginEntry (stack : List Open) (t : JsonToken) : Option State :=
  match stack, t with
  | .record entries :: stack, .string s =>
    some ⟨.entry entries (s.elim .unreadable .string) :: stack, .colon⟩
  | _, _ => none

/-- The state after a token. -/
def step (state : State) (t : JsonToken) : Option State :=
  match state.expecting, t, state.stack with
  | .value, t, stack => beginValue stack t
  | .itemOrEnd, .closeList, .list items :: stack => close (.list items.reverse) stack
  | .itemOrEnd, t, stack => beginValue stack t
  | .keyOrEnd, .closeRecord, .record entries :: stack => close (.record entries.reverse) stack
  | .keyOrEnd, t, stack => beginEntry stack t
  | .key, t, stack => beginEntry stack t
  | .colon, .colon, stack => some ⟨stack, .value⟩
  | .commaOrEnd, .comma, .list items :: stack => some ⟨.list items :: stack, .value⟩
  | .commaOrEnd, .comma, .record entries :: stack => some ⟨.record entries :: stack, .key⟩
  | .commaOrEnd, .closeList, .list items :: stack => close (.list items.reverse) stack
  | .commaOrEnd, .closeRecord, .record entries :: stack => close (.record entries.reverse) stack
  | _, _, _ => none

/-- The state after tokens. -/
def run : State → List JsonToken → Option State
  | s, [] => some s
  | s, t :: ts => (step s t).bind fun s => run s ts

/-- The data of a list of tokens. -/
def ofTokens? (ts : List JsonToken) : Option Node :=
  match run .start ts with
  | some ⟨_, .nothing n⟩ => some n
  | _ => none

end JsonReader

/-- The data of a JSON text, if it is one. -/
def Node.ofJsonText? (text : String) : Option Node :=
  (JsonToken.scan text.toList).bind JsonReader.ofTokens?

/-- The value of a JSON text, if it is one and all of it is readable. -/
def Json.ofText? (text : String) : Option Json :=
  (Node.ofJsonText? text).bind Node.toJson?

end TypedRequests
