import ClientGen.Text.Blank
import ClientGen.Text.Case
import ClientGen.Text.Lines

/-! # Names

How names of the described API become identifiers, package names and file names.
-/

namespace ClientGen.Naming

/-- The first character in lower case, the rest as it is. -/
def lowerCamel (s : String) : String :=
  match s.toList with
  | [] => ""
  | c :: rest => String.ofList (Text.lowerChar c ++ rest)

/-- The first character in upper case, the rest as it is. -/
def upperCamel (s : String) : String :=
  match s.toList with
  | [] => ""
  | c :: rest => String.ofList (Text.upperChar c ++ rest)

/-- An underscore before every ASCII capital. -/
def markCapitals (cs : List Char) : List Char :=
  cs.flatMap fun c => if c.isUpper then ['_', c] else [c]

/-- An underscore before every ASCII capital after the first character, then all in lower
    case. Runs of capitals are not joined. -/
def snakeCase (s : String) : String :=
  match s.toList with
  | [] => ""
  | c :: rest => Text.lowercase (String.ofList (c :: markCapitals rest))

/-- Whether a character separates the elements of a file path. -/
def isSeparator (c : Char) : Bool :=
  c = '/' || c = '\\'

/-- The characters behind the last one that satisfies `p`. -/
def afterLast (p : Char → Bool) (cs : List Char) : List Char :=
  (cs.reverse.takeWhile fun c => !p c).reverse

/-- The last path element of a name; separators at the end do not count. The empty name is
    the current directory, and a name of separators only is the root. -/
def lastElement (s : String) : String :=
  if s.isEmpty then "."
  else
    match Text.dropEndWhile isSeparator s.toList with
    | [] => "/"
    | cs => String.ofList (afterLast isSeparator cs)

/-- The package name of a package identifier: its last segment in lower case, with
    underscores for dots and dashes. -/
def packageOf (identifier : String) : String :=
  let segment := afterLast (· = '/') (Text.dropEndWhile (· = '/') identifier.toList)
  Text.lowercase (String.ofList (segment.map fun c => if c = '.' || c = '-' then '_' else c))

/-- Every line of a text behind a comment marker; blank lines are the marker alone. -/
def docComment (text marker : String) : String :=
  "\n".intercalate ((Text.lines (Text.trimEnd text)).map fun line =>
    let line := Text.trimEnd line
    if line.isEmpty then marker else marker ++ " " ++ line)

end ClientGen.Naming
