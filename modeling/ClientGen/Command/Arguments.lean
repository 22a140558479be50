/-! # Arguments of a command line

Options have a long name and perhaps a short one, and may take a value. A double dash ends the
options.
-/

namespace ClientGen.Command

/-- What an option looks like. -/
structure OptionRule where
  long : String
  short : Option Char := none
  takesValue : Bool := true
  /-- Whether the value may be the empty text. -/
  emptyAllowed : Bool := true
  repeatable : Bool := false
  deriving Repr, DecidableEq

/-- What is wrong with a command line. -/
inductive UsageError where
  | unknownOption (text : String)
  | missingValue (long : String)
  | unexpectedValue (long : String)
  | repeated (long : String)
  | missingOption (long : String)
  | missingArgument (name : String)
  | unexpectedArgument (text : String)
  | missingCommand
  | unknownCommand (text : String)
  deriving Repr, DecidableEq

def UsageError.message : UsageError → String
  | .unknownOption text => "unexpected argument '" ++ text ++ "' found"
  | .missingValue long => "a value is required for '--" ++ long ++ "' but none was supplied"
  | .unexpectedValue long => "unexpected value for '--" ++ long ++ "' found"
  | .repeated long => "the argument '--" ++ long ++ "' cannot be used multiple times"
  | .missingOption long => "the argument '--" ++ long ++ "' was not provided"
  | .missingArgument name => "the argument <" ++ name ++ "> was not provided"
  | .unexpectedArgument text => "unexpected argument '" ++ text ++ "' found"
  | .missingCommand => "a subcommand is required but one was not provided"
  | .unknownCommand text => "unrecognized subcommand '" ++ text ++ "'"

/-- The options in order, with their values, and the other arguments. -/
structure Arguments where
  options : List (String × String) := []
  others : List String := []
  deriving Repr, DecidableEq

namespace Arguments

/-- All values of an option. -/
def values (arguments : Arguments) (long : String) : List String :=
  (arguments.options.filter (·.1 = long)).map (·.2)

/-- The value of an option that occurs at most once. -/
def value? (arguments : Arguments) (long : String) : Option String :=
  arguments.options.lookup long

/-- Take in an option. -/
def add (rule : OptionRule) (value : String) (arguments : Arguments) :
    Except UsageError Arguments :=
  if rule.takesValue && value = "" && !rule.emptyAllowed then .error (.missingValue rule.long)
  else if !rule.repeatable && (arguments.value? rule.long).isSome then
    .error (.repeated rule.long)
  else .ok { arguments with options := arguments.options ++ [(rule.long, value)] }

/-- Whether an argument can only be an option, and not the value of one. -/
def looksLikeOption (text : String) : Bool :=
  text.toList.head? = some '-' && text ≠ "-"

/-- The value of an option that has none attached: the next argument. -/
def takeNext (rule : OptionRule) (arguments : Arguments) :
    List String → Except UsageError (Arguments × List String)
  | [] => .error (.missingValue rule.long)
  | next :: rest =>
    if looksLikeOption next then .error (.missingValue rule.long)
    else do return (← arguments.add rule next, rest)

/-- An option by its long name, perhaps with a value behind an equals sign. -/
def readLong (rules : List OptionRule) (text : List Char) (rest : List String)
    (arguments : Arguments) : Except UsageError (Arguments × List String) := do
  let name := String.ofList (text.takeWhile (· ≠ '='))
  match rules.find? (·.long = name), text.dropWhile (· ≠ '=') with
  | none, _ => .error (.unknownOption ("--" ++ String.ofList text))
  | some rule, [] =>
    if rule.takesValue then takeNext rule arguments rest
    else return (← arguments.add rule "", rest)
  | some rule, _ :: value =>
    if rule.takesValue then return (← arguments.add rule (String.ofList value), rest)
    else .error (.unexpectedValue rule.long)

/-- Options by their short names, run together. The first one that takes a value takes all that
    follows as its value. -/
def readShort (rules : List OptionRule) :
    List Char → List String → Arguments → Except UsageError (Arguments × List String)
  | [], rest, arguments => .ok (arguments, rest)
  | c :: more, rest, arguments =>
    match rules.find? (·.short = some c) with
    | none => .error (.unknownOption ("-" ++ String.ofList (c :: more)))
    | some rule =>
      if !rule.takesValue then do
        readShort rules more rest (← arguments.add rule "")
      else
        match more with
        | [] => takeNext rule arguments rest
        | '=' :: value => do return (← arguments.add rule (String.ofList value), rest)
        | value => do return (← arguments.add rule (String.ofList value), rest)

/-- Read arguments. With `single`, stop in front of the first one that is no option. -/
def readFrom (rules : List OptionRule) (single : Bool) :
    Nat → List String → Arguments → Except UsageError (Arguments × List String)
  | 0, rest, arguments => .ok (arguments, rest)
  | _ + 1, [], arguments => .ok (arguments, [])
  | fuel + 1, text :: rest, arguments =>
    match text.toList with
    | ['-', '-'] => .ok ({ arguments with others := arguments.others ++ rest }, [])
    | '-' :: '-' :: long => do
      let (arguments, rest) ← arguments.readLong rules long rest
      readFrom rules single fuel rest arguments
    | '-' :: c :: short => do
      let (arguments, rest) ← readShort rules (c :: short) rest arguments
      readFrom rules single fuel rest arguments
    | _ =>
      if single then .ok (arguments, text :: rest)
      else
        readFrom rules single fuel rest
          { arguments with others := arguments.others ++ [text] }

/-- Read all arguments. -/
def read (rules : List OptionRule) (texts : List String) : Except UsageError Arguments := do
  return (← readFrom rules false texts.length texts {}).1

end Arguments

end ClientGen.Command
