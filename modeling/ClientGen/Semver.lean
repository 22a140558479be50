import ClientGen.Text.HiddenTable
import ClientGen.Text.Quoted

/-! # Semantic versions

The grammar `major.minor.patch[-pre][+build]` and what is reported of a text outside it.
-/

namespace ClientGen.Semver

/-- The part of a version that is being read. -/
inductive Position where
  | major | minor | patch | pre | build
  deriving Repr, DecidableEq

def Position.name : Position → String
  | .major => "major version number"
  | .minor => "minor version number"
  | .patch => "patch version number"
  | .pre => "pre-release identifier"
  | .build => "build metadata"

/-- What makes a text no version. -/
inductive Fault where
  | empty
  | unexpectedEnd (position : Position)
  | unexpectedChar (position : Position) (c : Char)
  | unexpectedAfter (position : Position) (c : Char)
  | leadingZero (position : Position)
  | overflow (position : Position)
  | emptySegment (position : Position)
  deriving Repr, DecidableEq

/-- A character between single quotes. -/
def quoteChar (c : Char) : String :=
  let escaped := if c = '\'' then ['\\', '\''] else if c = '"' then ['"'] else Text.escapeRust c
  String.ofList ('\'' :: escaped ++ ['\''])

def Fault.message : Fault → String
  | .empty => "empty string, expected a semver version"
  | .unexpectedEnd p => "unexpected end of input while parsing " ++ p.name
  | .unexpectedChar p c =>
    "unexpected character " ++ quoteChar c ++ " while parsing " ++ p.name
  | .unexpectedAfter p c => "unexpected character " ++ quoteChar c ++ " after " ++ p.name
  | .leadingZero p => "invalid leading zero in " ++ p.name
  | .overflow p => "value of " ++ p.name ++ " exceeds u64::MAX"
  | .emptySegment p => "empty identifier segment in " ++ p.name

/-- Largest number that a version can hold. -/
def maxNumber : Nat := 0xFFFFFFFFFFFFFFFF

/-- A decimal number of 64 bits without a leading zero, and what follows it. -/
def readNumber (position : Position) (cs : List Char) : Except Fault (List Char) :=
  let digits := cs.takeWhile Char.isDigit
  let rest := cs.drop digits.length
  match digits with
  | [] =>
    match cs with
    | [] => .error (.unexpectedEnd position)
    | c :: _ => .error (.unexpectedChar position c)
  | first :: more =>
    if first = '0' && !more.isEmpty then .error (.leadingZero position)
    else if maxNumber < digits.foldl (fun n c => 10 * n + (c.toNat - '0'.toNat)) 0 then
      .error (.overflow position)
    else .ok rest

/-- The dot behind a number. -/
def readDot (position : Position) : List Char → Except Fault (List Char)
  | [] => .error (.unexpectedEnd position)
  | '.' :: rest => .ok rest
  | c :: _ => .error (.unexpectedAfter position c)

def isIdentifierChar (c : Char) : Bool :=
  c.isAlphanum || c = '-'

/-- Dot-separated segments of letters, digits and dashes, and what follows them. In a
    pre-release, a number has no leading zero. -/
def readIdentifier (position : Position) (segment : List Char) : List Char →
    Except Fault (List Char)
  | [] => do
    closeSegment segment
    return []
  | c :: rest =>
    if isIdentifierChar c then readIdentifier position (segment ++ [c]) rest
    else do
      closeSegment segment
      if c = '.' then readIdentifier position [] rest else return c :: rest
where
  closeSegment (segment : List Char) : Except Fault Unit :=
    if segment.isEmpty then .error (.emptySegment position)
    else if position = .pre && 1 < segment.length && segment.all Char.isDigit
        && segment.head? = some '0' then
      .error (.leadingZero position)
    else .ok ()

/-- What follows the three numbers: a pre-release, build metadata, both or nothing. -/
def readSuffix (cs : List Char) : Except Fault Unit := do
  let (cs, position) ← match cs with
    | '-' :: rest => do pure (← readIdentifier .pre [] rest, Position.pre)
    | _ => pure (cs, Position.patch)
  let (cs, position) ← match cs with
    | '+' :: rest => do pure (← readIdentifier .build [] rest, Position.build)
    | _ => pure (cs, position)
  match cs with
  | [] => return ()
  | c :: _ => .error (.unexpectedAfter position c)

/-- Succeeds exactly on the texts that are versions. -/
def check (s : String) : Except Fault Unit := do
  if s.isEmpty then .error .empty
  else
    let cs ← readNumber .major s.toList
    let cs ← readDot .major cs
    let cs ← readNumber .minor cs
    let cs ← readDot .minor cs
    let cs ← readNumber .patch cs
    readSuffix cs

end ClientGen.Semver
