import TypedRequests.Json.Printer

/-!
# Faults of templates

* `Template.Fault` : why an expression has no value.
* `Template.Fault.message` : the wording, from the outermost cause to the innermost.
-/

set_option autoImplicit false

namespace TypedRequests.Template

/-- Why an expression has no value. -/
inductive Fault where
  | undefined (ident template : String)
  | unknownFilter (filter : String)
  | unknownTest (test : String)
  | unknownFunction (function : String)
  /-- A filter or one of its arguments fails. -/
  | inFilter (filter : String) (cause : Fault)
  /-- A test or one of its arguments fails. -/
  | inTest (test : String) (cause : Fault)
  | inputNotText (filter : String) (input : Scalar)
  | missingArgument (filter argument : String)
  | argumentNotText (filter argument : String) (value : Scalar)
  | noLength
  | noDefault
  /-- A sum needs numbers. -/
  | nameInSum (ident : String)
  | textInSum (s : String)
  | boolInSum (b : Bool)
  | testInSum (test : String)
  | expressionInSum
  | sumTooLarge (l r : Int)
  /-- Only texts and numbers are put together. -/
  | nameInText (ident : String)
  | undefinedSubject (test : String)
  | tooManyArguments (test : String) (given : Nat) (allowed : Nat)
  | subjectNotText (test : String)
  | parameterNotText (test : String)
  | subjectWithoutParts (test : String)
  /-- The causes behind the first one are not told. -/
  | bare (fault : Fault)
deriving DecidableEq, Repr

namespace Fault

/-- The compact JSON text of a scalar. -/
def shown (v : Scalar) : String :=
  String.ofList v.text

/-- A natural number in decimal digits. -/
def count (n : Nat) : String :=
  String.ofList (NumberLayout.digitsOf n)

/-- An integer in decimal digits. -/
def integer (n : Int) : String :=
  String.ofList (Scalar.integerText n)

/-- The wording of the outermost cause. -/
def headline : Fault → String
  | undefined ident template =>
    "Variable `" ++ ident ++ "` not found in context while rendering '" ++ template ++ "'"
  | unknownFilter filter => "Filter '" ++ filter ++ "' not found"
  | unknownTest test => "Test '" ++ test ++ "' not found"
  | unknownFunction function => "Function '" ++ function ++ "' not found"
  | inFilter filter _ => "Filter call '" ++ filter ++ "' failed"
  | inTest test _ => "Test call '" ++ test ++ "' failed"
  | inputNotText filter input =>
    "Filter `" ++ filter ++ "` was called on an incorrect value: got `" ++ shown input
      ++ "` but expected a String"
  | missingArgument filter argument =>
    "Filter `" ++ filter ++ "` expected an arg called `" ++ argument ++ "`"
  | argumentNotText filter argument value =>
    "Filter `" ++ filter ++ "` received an incorrect type for arg `" ++ argument ++ "`: got `"
      ++ shown value ++ "` but expected a String"
  | noLength =>
    "Filter `length` was used on a value that isn't an array, an object, or a string."
  | noDefault => "The `default` filter requires a `value` argument."
  | nameInSum ident =>
    "Variable `" ++ ident ++ "` was used in a math operation but is not a number"
  | textInSum s => "Tried to do math with a string: `" ++ s ++ "`"
  | boolInSum b => "Tried to do math with a boolean: `" ++ shown (.bool b) ++ "`"
  | testInSum test => "Tried to do math with a test: " ++ test
  | expressionInSum => "Tried to do math with an expression not resulting in a number"
  | sumTooLarge l r =>
    integer l ++ " + " ++ integer r ++ " results in an out of bounds i64"
  | nameInText ident =>
    "Tried to concat a value that is not a string or a number from ident " ++ ident
  | undefinedSubject test => "Tester `" ++ test ++ "` was called on an undefined variable"
  | tooManyArguments test given allowed =>
    if allowed = 0 then
      "Tester `" ++ test ++ "` was called with some args but this test doesn't take args"
    else
      "Tester `" ++ test ++ "` was called with " ++ count given ++ " args, the max number is "
        ++ count allowed
  | subjectNotText test => "Tester `" ++ test ++ "` was called on that isn't a string"
  | parameterNotText test =>
    "Tester `" ++ test ++ "` was called with a parameter that isn't a string"
  | subjectWithoutParts test =>
    "Tester `" ++ test ++ "` can only be used on string, array or map"
  | bare fault => fault.headline

/-- The wording, from the outermost cause to the innermost. -/
def message : Fault → String
  | inFilter filter cause => headline (inFilter filter cause) ++ ": " ++ cause.message
  | inTest test cause => headline (inTest test cause) ++ ": " ++ cause.message
  | fault => fault.headline

end Fault

end TypedRequests.Template
