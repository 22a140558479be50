import ClientGen.Text.Lines

/-! # Paths of files

Paths as they are written: names between slashes. Empty names and single dots lead nowhere, two
dots lead out of a directory.
-/

namespace ClientGen.Path

def isAbsolute (path : String) : Bool :=
  path.toList.head? = some '/'

/-- The names along a path. -/
def names (path : String) : List String :=
  (Text.split (· = '/') path).filter fun name => name ≠ "" && name ≠ "."

/-- Whether a path can only be one of a directory. -/
def namesDirectory (path : String) : Bool :=
  match path.toList.reverse with
  | '/' :: _ | ['.'] | '.' :: '/' :: _ => true
  | _ => false

/-- A reversed path without the slashes and single dots behind its last name. -/
def trimReversed : List Char → List Char
  | [] => []
  | c :: rest =>
    if c = '/' then if rest.isEmpty then [c] else trimReversed rest
    else if c = '.' && rest.head? = some '/' then trimReversed rest
    else c :: rest

/-- The reversed last name of a path, and what comes before it. -/
def splitReversed (path : String) : List Char × List Char :=
  let chars := trimReversed path.toList.reverse
  (chars.takeWhile (· ≠ '/'), chars.dropWhile (· ≠ '/'))

/-- The path of what holds a file or a directory. The root is held by nothing. -/
def parent? (path : String) : Option String :=
  match splitReversed path with
  | ([], _) => none
  | (_, before) => some (String.ofList (trimReversed before).reverse)

/-- The last name of a path. -/
def lastName? (path : String) : Option String :=
  let name := (splitReversed path).1.reverse
  if name = [] || name = ['.'] || name = ['.', '.'] then none else some (String.ofList name)

/-- What follows the last dot of the last name. A dot in front of it is part of the name. -/
def extension? (path : String) : Option String := do
  let name := (← lastName? path).toList.reverse
  let extension := name.takeWhile (· ≠ '.')
  if (name.drop extension.length).length ≤ 1 then none
  else some (String.ofList extension.reverse)

/-- The path of `path` seen from the directory `base`. -/
def join (base path : String) : String :=
  if isAbsolute path then path
  else if base = "" || base.toList.getLast? = some '/' then base ++ path
  else base ++ "/" ++ path

end ClientGen.Path
