import ClientGen.Target.Backend

/-! # Generated packages

The files of a generated package by path, and the files that could not be generated.
-/

namespace ClientGen

/-- Files by path, each path once, in the order of the paths. -/
structure Project where
  files : List (String × String) := []
  deriving Repr, DecidableEq, Inhabited

namespace Project

/-- Put a file in its place; a file of the same path is replaced. -/
def insertFile (path content : String) : List (String × String) → List (String × String)
  | [] => [(path, content)]
  | (other, old) :: rest =>
    if path = other then (path, content) :: rest
    else if path < other then (path, content) :: (other, old) :: rest
    else (other, old) :: insertFile path content rest

def insert (project : Project) (path content : String) : Project :=
  ⟨insertFile path content project.files⟩

def get? (project : Project) (path : String) : Option String :=
  project.files.lookup path

def size (project : Project) : Nat :=
  project.files.length

end Project

/-- What generating a package gives: the files that could be rendered, and an error for each
    of the others. -/
structure Outcome where
  project : Project := {}
  errors : List GenerationError := []

namespace Outcome

def isOk (outcome : Outcome) : Bool :=
  outcome.errors.isEmpty

/-- Take in the text of a file, or the error in its place. -/
def record (outcome : Outcome) (path : String) (text : Except GenerationError String) :
    Outcome :=
  match text with
  | .ok content => { outcome with project := outcome.project.insert path content }
  | .error error => { outcome with errors := outcome.errors ++ [error] }

end Outcome

/-- Render the client, the types if there are any, and all additional files. A file that
    fails does not keep the others from being rendered. -/
def Backend.renderProject (backend : Backend) (api : Api) (types : Option Types) : Outcome :=
  let outcome := ({} : Outcome).record backend.clientPath (backend.emitClient api).text
  let outcome := match types with
    | some types => outcome.record backend.typesPath (backend.emitTypes types).text
    | none => outcome
  backend.additional.foldl
    (fun outcome file => outcome.record file.path (backend.emitAdditional file)) outcome

def Target.renderProject (target : Target) (api : Api) (types : Option Types) : Outcome :=
  target.backend.renderProject api types

end ClientGen
