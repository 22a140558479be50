import ClientGen.Command.Arguments
import ClientGen.Settings.Basic

/-! # Commands

What the program can be asked for, and how a command line says it.
-/

namespace ClientGen

/-- The kinds of documents that describe models. -/
inductive DocumentKind where
  | api | types
  deriving Repr, DecidableEq

inductive Command where
  | help | version
  /-- List the target languages. -/
  | list
  /-- Generate client packages, with settings from a file and the command line. -/
  | generate (settingsFile : Option String) (overrides : Overrides)
  /-- Report on models without generating anything. -/
  | validate (api : String) (types : Option String)
  /-- Show the schema of a kind of documents. -/
  | schema (kind : DocumentKind)
  deriving Repr, DecidableEq

namespace Command

/-- Options that every command takes. -/
def commonRules : List OptionRule := [
  { long := "verbose", short := some 'v', takesValue := false },
  { long := "help", short := some 'h', takesValue := false },
  { long := "version", short := some 'V', takesValue := false }]

def pathRule (long : String) (short : Option Char := none) : OptionRule :=
  { long, short, emptyAllowed := false }

def validateRules : List OptionRule :=
  pathRule "api" :: pathRule "types" :: commonRules

def generateRules : List OptionRule :=
  pathRule "config" (some 'c') :: pathRule "output" (some 'o')
    :: { long := "language", short := some 'l', repeatable := true }
    :: { long := "sdk-name" } :: { long := "sdk-version" } :: validateRules

/-- The command that asks for information, if one of its options is given. -/
def information? (arguments : Arguments) : Option Command :=
  if (arguments.value? "help").isSome then some .help
  else if (arguments.value? "version").isSome then some .version
  else none

/-- The options of a command that takes no other arguments. -/
def optionsOnly (rules : List OptionRule) (texts : List String)
    (command : Arguments → Except UsageError Command) : Except UsageError Command := do
  let arguments ← Arguments.read rules texts
  match information? arguments, arguments.others with
  | some information, _ => return information
  | none, text :: _ => throw (.unexpectedArgument text)
  | none, [] => command arguments

def readGenerate (arguments : Arguments) : Command :=
  .generate (arguments.value? "config") {
    api := arguments.value? "api"
    types := arguments.value? "types"
    output := arguments.value? "output"
    languages := arguments.values "language"
    sdkName := arguments.value? "sdk-name"
    version := arguments.value? "sdk-version" }

def readValidate (arguments : Arguments) : Except UsageError Command :=
  match arguments.value? "api" with
  | some api => .ok (.validate api (arguments.value? "types"))
  | none => .error (.missingOption "api")

def readSchema (texts : List String) : Except UsageError Command := do
  let arguments ← Arguments.read commonRules texts
  match information? arguments, arguments.others with
  | some information, _ => return information
  | none, [] => throw (.missingArgument "KIND")
  | none, ["api"] => return .schema .api
  | none, ["types"] => return .schema .types
  | none, [text] | none, _ :: text :: _ => throw (.unexpectedArgument text)

/-- The command that a command line asks for. -/
def read (texts : List String) : Except UsageError Command := do
  let (arguments, rest) ← Arguments.readFrom commonRules true texts.length texts {}
  match information? arguments, arguments.others, rest with
  | some information, _, _ => return information
  | none, text :: _, _ => throw (.unexpectedArgument text)
  | none, [], [] => throw .missingCommand
  | none, [], name :: texts =>
    if name = "list" then optionsOnly commonRules texts fun _ => .ok .list
    else if name = "generate" then
      optionsOnly generateRules texts fun arguments => .ok (readGenerate arguments)
    else if name = "validate" then optionsOnly validateRules texts readValidate
    else if name = "schema" then readSchema texts
    else if name = "help" then return .help
    else throw (.unknownCommand name)

end Command

end ClientGen
