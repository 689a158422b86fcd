import TypedRequests.Number.Decimal
import TypedRequests.Template.Basic
import TypedRequests.Template.Fault
import TypedRequests.Text.Blank
import TypedRequests.Text.Casing
import TypedRequests.Text.Replace

/-!
# The meaning of expressions

An expression is asked for its value, for its truth as a condition, and for its number as a part of
a sum, and each of these can fail in a way of its own.

* `Meaning` : the answers.
* `filterCall`, `testCall` : the filters and tests.
* `Expr.meaning` : the meaning of an expression, by recursion on its parts.

There are the filters `upper`, `lower`, `capitalize`, `trim`, `replace`, `length`, `default` and
`safe`, the tests `defined`, `undefined`, `starting_with` and `containing`, and no functions. The
others of the language are left out and count as unknown here.
-/

set_option autoImplicit false

namespace TypedRequests.Template

/-- The variables with their values. -/
abbrev Scope := List (String × Scalar)

/-! ## Values -/

/-- The value counts as true: it is not empty and not zero. -/
def isTrue : Scalar → Bool
  | .null => false
  | .string s => !s.isEmpty
  | .bool b => b
  | .integer n => n != 0
  | .real x => !x.isZero

/-- The number that a value is. -/
def number? : Scalar → Option Binary64
  | .integer n => some (.ofInt n)
  | .real x => some x
  | _ => none

/-- The value as it is written into the result. -/
def written : Scalar → String
  | .null => ""
  | .string s => s
  | .bool b => String.ofList (Scalar.bool b).text
  | .integer n => String.ofList (Scalar.integerText n)
  | .real x => NumberLayout.code.write x

/-- Two values are equal; a number and another value cannot be compared. -/
def sameValue? (v w : Scalar) : Option Bool :=
  match number? v, number? w with
  | some x, some y => some (x == y || (x.isZero && y.isZero))
  | none, none => some (v == w)
  | _, _ => none

/-- The sum of two numbers. A sum of integers has to fit in 64 bits. -/
def sumOf : Scalar → Scalar → Except Fault Scalar
  | .integer m, .integer n =>
    if fitsSigned 64 (m + n) then .ok (.integer (m + n))
    else .error (.sumTooLarge m n)
  | v, w =>
    match number? v, number? w with
    | some x, some y => .ok (.real (x.add y))
    | _, _ => .error .expressionInSum

/-! ## Filters -/

/-- A filter of strings. -/
def onText (filter : String) (f : List Char → List Char) : Scalar → Except Fault Scalar
  | .string s => .ok (.string (String.ofList (f s.toList)))
  | v => .error (.inputNotText filter v)

/-- An argument that is a string. -/
def textArgument (filter argument : String) (args : List (String × Scalar)) :
    Except Fault (List Char) :=
  match args.reverse.lookup argument with
  | some (.string s) => .ok s.toList
  | some v => .error (.argumentNotText filter argument v)
  | none => .error (.missingArgument filter argument)

/-- Every occurrence of one text replaced by another. -/
def replaceFilter (args : List (String × Scalar)) : Scalar → Except Fault Scalar
  | .string s => do
    let old ← textArgument "replace" "from" args
    let new ← textArgument "replace" "to" args
    return .string (String.ofList (Text.replaceAll old new s.toList))
  | v => .error (.inputNotText "replace" v)

/-- The number of characters. -/
def lengthFilter : Scalar → Except Fault Scalar
  | .string s => .ok (.integer s.length)
  | _ => .error .noLength

/-- The filter with a name. -/
def filterNamed? (filter : String) :
    Option (List (String × Scalar) → Scalar → Except Fault Scalar) :=
  match filter with
  | "upper" => some fun _ => onText "upper" Text.upper
  | "lower" => some fun _ => onText "lower" Text.lower
  | "capitalize" => some fun _ => onText "capitalize" Text.capitalize
  | "trim" => some fun _ => onText "trim" Text.trim
  | "replace" => some replaceFilter
  | "length" => some fun _ => lengthFilter
  | _ => none

/-- A filter applied to a value. -/
def filterCall (filter : String) (args : List (String × Except Fault Scalar)) (v : Scalar) :
    Except Fault Scalar :=
  match filterNamed? filter with
  | none => .error (.unknownFilter filter)
  | some f =>
    let values := args.mapM fun a => a.2.map fun w => (a.1, w)
    (values.bind fun values => f values v).mapError (.inFilter filter)

/-- The filters that apply to a value that is there. -/
def applies (filter : String) : Bool :=
  filter != "default" && filter != "safe"

/-! ## Tests -/

/-- A test of a string with one string. -/
def textTest (test : String) (f : List Char → List Char → Bool) (notText : Fault)
    (subject : Option Scalar) (args : List Scalar) : Except Fault Bool :=
  if 1 < args.length then .error (.tooManyArguments test args.length 1)
  else
    match subject, args with
    | none, _ => .error (.undefinedSubject test)
    | some (.string s), [.string t] => .ok (f s.toList t.toList)
    | some (.string _), _ => .error (.parameterNotText test)
    | some _, _ => .error notText

/-- A test of a variable, which need not be defined. -/
def definedTest (test : String) (wanted : Bool) (subject : Option Scalar) (args : List Scalar) :
    Except Fault Bool :=
  if args.isEmpty then .ok (subject.isSome == wanted)
  else .error (.tooManyArguments test args.length 0)

/-- The test with a name. -/
def testNamed? (test : String) : Option (Option Scalar → List Scalar → Except Fault Bool) :=
  match test with
  | "defined" => some (definedTest test true)
  | "undefined" => some (definedTest test false)
  | "starting_with" =>
    some (textTest test (fun s t => (Text.stripPrefix? t s).isSome) (.subjectNotText test))
  | "containing" => some (textTest test (fun s t => Text.contains t s) (.subjectWithoutParts test))
  | _ => none

/-- A test applied to a variable. -/
def testCall (test : String) (args : List (Except Fault Scalar)) (subject : Option Scalar) :
    Except Fault Bool :=
  match testNamed? test with
  | none => .error (.unknownTest test)
  | some f =>
    ((args.mapM id).bind fun values => f subject values).mapError (.inTest test)

/-! ## Meanings -/

/-- How an expression behaves as a condition. -/
inductive Kind where
  /-- A variable: a fault makes the condition false, and without the variable its negation
  holds. -/
  | ident
  /-- A text put together: the filters count. -/
  | text
  /-- The filters do not count. -/
  | other
deriving DecidableEq, Repr

/-- The answers of an expression. -/
structure Meaning where
  kind : Kind
  /-- The variable is not defined, and there is no default. -/
  missing : Bool
  value : Except Fault Scalar
  truth : Except Fault Bool
  /-- The truth of the negation. -/
  denied : Except Fault Bool
  /-- The value of the negation. -/
  deniedValue : Except Fault Scalar
  /-- The value as a part of a sum. -/
  number : Except Fault Scalar

namespace Meaning

/-- The negation of a value. -/
def denial (value : Except Fault Scalar) : Except Fault Scalar :=
  value.map fun v => .bool !isTrue v

/-- An expression that is true when its value is. -/
def ofValue (kind : Kind) (value number : Except Fault Scalar) : Meaning where
  kind := kind
  missing := false
  value := value
  truth := value.map isTrue
  denied := value.map fun v => !isTrue v
  deniedValue := denial value
  number := number

/-- A variable with a value or a fault. -/
def ofVariable (missing : Bool) (value number : Except Fault Scalar) : Meaning where
  kind := .ident
  missing := missing
  value := value
  truth := .ok (match value with
    | .ok v => isTrue v
    | .error _ => false)
  denied := .ok (missing || match value with
    | .ok v => !isTrue v
    | .error _ => false)
  deniedValue := if missing then .ok (.bool true) else denial value
  number := number

/-- A condition. Its negation is a condition only: written, it has the value of the condition. -/
def ofCondition (truth denied : Except Fault Bool) : Meaning where
  kind := .other
  missing := false
  value := truth.map .bool
  truth := truth
  denied := denied
  deniedValue := denied.map fun b => .bool !b
  number := .error .expressionInSum

/-- The value for a variable that is missing. -/
def defaultValue (args : List (String × Except Fault Scalar)) : Except Fault Scalar :=
  match args.reverse.lookup "value" with
  | some v => v
  | none => .error .noDefault

/-- An expression with filters. -/
def filtered (m : Meaning) (filters : List (String × List (String × Except Fault Scalar))) :
    Meaning :=
  let (missing, start) :=
    match m.missing, filters with
    | true, ("default", args) :: _ => (false, defaultValue args)
    | missing, _ => (missing, m.value)
  let value := (filters.filter fun f => applies f.1).foldl
    (fun value f => value.bind (filterCall f.1 f.2)) start
  let number := value.bind fun v =>
    if (number? v).isSome then .ok v else .error .expressionInSum
  match m.kind with
  | .ident => ofVariable missing value number
  | .text => ofValue .text value number
  | .other => { m with value := value, deniedValue := denial value, number := number }

/-- The value of an expression without a value of its own kind in sums. -/
def ofLiteral (v : Scalar) : Meaning :=
  ofValue .other (.ok v) (match v with
    | .string s => .error (.textInSum s)
    | .bool b => .error (.boolInSum b)
    | v => .ok v)

/-- A test with its result. -/
def ofTest (test : String) (negated : Bool) (result : Except Fault Bool) : Meaning :=
  ofValue .other (result.map fun b => .bool (b != negated)) (.error (.testInSum test))

/-- The sum of two numbers. In a value, only the outermost cause of a fault is told. -/
def ofSum (l r : Meaning) : Meaning :=
  let number := l.number.bind fun v => r.number.bind fun w => sumOf v w
  { ofValue .other number number with
    value := number.mapError .bare
    deniedValue := denial (number.mapError .bare) }

/-- The comparison of two values. Where they cannot be compared, the comparison does not hold, and
neither does its negation. -/
def ofComparison (wanted : Bool) (l r : Meaning) : Meaning :=
  let same := l.value.bind fun v => r.value.map fun w => sameValue? v w
  ofCondition
    (same.map fun s => s == some wanted)
    (same.map fun s => s == some !wanted)

/-- Both conditions hold; the second one is asked only if the first one holds. -/
def ofAnd (l r : Meaning) : Meaning :=
  let truth := l.truth.bind fun b => if b then r.truth else .ok false
  ofCondition truth (truth.map not)

/-- One of the conditions holds; the second one is asked only if the first one does not hold. -/
def ofOr (l r : Meaning) : Meaning :=
  let truth := l.truth.bind fun b => if b then .ok true else r.truth
  ofCondition truth (truth.map not)

/-- The negation of an expression. -/
def ofNot (m : Meaning) : Meaning :=
  { ofCondition m.denied (m.denied.map not) with value := m.deniedValue }

end Meaning

/-! ## Expressions -/

/-- The value of a variable. -/
def lookup (template : String) (scope : Scope) (ident : String) : Except Fault Scalar :=
  match scope.lookup ident with
  | some v => .ok v
  | none => .error (.undefined ident template)

/-- A variable as an expression. -/
def Meaning.ofName (template : String) (scope : Scope) (ident : String) : Meaning :=
  let value := lookup template scope ident
  let number := value.bind fun v =>
    if (number? v).isSome then .ok v else .error (.nameInSum ident)
  ofVariable (scope.lookup ident).isNone value number

/-- A part of a text that is put together. -/
def partText (template : String) (scope : Scope) : Expr → Except Fault String
  | .literal v => .ok (written v)
  | .ident name => do
    match ← lookup template scope name with
    | .string s => return s
    | .integer n => return Fault.shown (.integer n)
    | .real x => return Fault.shown (.real x)
    | _ => throw (.nameInText name)
  | .call function => .error (.unknownFunction function)
  | _ => .error .expressionInSum

/-- The parts of a text put together. -/
def Meaning.ofParts (template : String) (scope : Scope) (parts : List Expr) : Meaning :=
  let value := (parts.mapM (partText template scope)).map fun texts => .string (String.join texts)
  ofValue .text value (.error .expressionInSum)

mutual

/-- The meaning of an expression in a scope. -/
def Expr.meaning (template : String) (scope : Scope) : Expr → Meaning
  | .literal v => .ofLiteral v
  | .ident name => .ofName template scope name
  | .call function =>
    .ofValue .other (.error (.unknownFunction function)) (.error (.unknownFunction function))
  | .concat parts => .ofParts template scope parts
  | .test subject negated check args =>
    .ofTest check negated (testCall check (Expr.values template scope args) (scope.lookup subject))
  | .sum l r => .ofSum (l.meaning template scope) (r.meaning template scope)
  | .filtered e filters => (e.meaning template scope).filtered (Expr.calls template scope filters)
  | .equal l r => .ofComparison true (l.meaning template scope) (r.meaning template scope)
  | .unequal l r => .ofComparison false (l.meaning template scope) (r.meaning template scope)
  | .and l r => .ofAnd (l.meaning template scope) (r.meaning template scope)
  | .or l r => .ofOr (l.meaning template scope) (r.meaning template scope)
  | .not e => .ofNot (e.meaning template scope)

/-- The values of expressions. -/
def Expr.values (template : String) (scope : Scope) : List Expr → List (Except Fault Scalar)
  | [] => []
  | e :: es => (e.meaning template scope).value :: Expr.values template scope es

/-- The values of named arguments. -/
def Expr.named (template : String) (scope : Scope) :
    List (String × Expr) → List (String × Except Fault Scalar)
  | [] => []
  | (name, e) :: es => (name, (e.meaning template scope).value) :: Expr.named template scope es

/-- Filters with the values of their arguments. -/
def Expr.calls (template : String) (scope : Scope) :
    List (String × List (String × Expr)) → List (String × List (String × Except Fault Scalar))
  | [] => []
  | (filter, args) :: fs =>
    (filter, Expr.named template scope args) :: Expr.calls template scope fs

end

end TypedRequests.Template
