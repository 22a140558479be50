/-! # Template errors

What goes wrong when a template is read or evaluated, and where in which template.
-/

namespace ClientGen.Template

/-- The kind of an error. -/
inductive ErrorKind where
  | undefinedValue | badForm | invalidOperation | unknownFunction | unknownFilter | unknownTest
  | unknownMethod | missingArgument | tooManyArguments | templateNotFound | cannotUnpack
  | badEscape | badInclude
  deriving Repr, DecidableEq

def ErrorKind.message : ErrorKind → String
  | .undefinedValue => "undefined value"
  | .badForm => "syntax error"
  | .invalidOperation => "invalid operation"
  | .unknownFunction => "unknown function"
  | .unknownFilter => "unknown filter"
  | .unknownTest => "unknown test"
  | .unknownMethod => "unknown method"
  | .missingArgument => "missing argument"
  | .tooManyArguments => "too many arguments"
  | .templateNotFound => "template not found"
  | .cannotUnpack => "cannot unpack"
  | .badEscape => "bad string escape"
  | .badInclude => "could not render include"

/-- An error, with its place once that is known: a template's name and a line. -/
structure Error where
  kind : ErrorKind
  detail : Option String := none
  place : Option (String × Nat) := none
  deriving Repr, DecidableEq

namespace Error

/-- The error as it is shown. -/
def message (e : Error) : String :=
  e.kind.message
    ++ (match e.detail with
      | some detail => ": " ++ detail
      | none => "")
    ++ (match e.place with
      | some (name, line) => " (in " ++ name ++ ":" ++ toString line ++ ")"
      | none => "")

def badForm (detail : String) : Error :=
  { kind := .badForm, detail := some detail }

def invalid (detail : String) : Error :=
  { kind := .invalidOperation, detail := some detail }

def undefinedValue : Error :=
  { kind := .undefinedValue }

/-- Put an error in its place, unless it has one. -/
def located (name : String) (line : Nat) (e : Error) : Error :=
  match e.place with
  | some _ => e
  | none => { e with place := some (name, line) }

end Error

end ClientGen.Template
