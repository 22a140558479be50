import ClientGen.Sdk
import ClientGen.Template.Error

/-! # Generation errors

Why a client package, or one of its files, cannot be generated.
-/

namespace ClientGen

/-- What a file of a generated package is for. -/
inductive FileRole where
  | client | types | additional
  deriving Repr, DecidableEq

def FileRole.name : FileRole → String
  | .client => "client"
  | .types => "types"
  | .additional => "additional"

/-- The errors of templates are those of the engine that reads and runs them. -/
inductive GenerationError (ε : Type := Template.Error) where
  | unsupportedLanguage (language : String) (available : List String)
  | badTemplate (language name : String) (error : ε)
  | badRendering (language : String) (role : FileRole) (path : String) (error : ε)
  | badSdk (fault : Sdk.Fault)
  deriving Repr, DecidableEq

namespace GenerationError

def message : GenerationError → String
  | .unsupportedLanguage language available =>
    "unsupported target language: " ++ language ++ " (available: "
      ++ ", ".intercalate available ++ ")"
  | .badTemplate language name error =>
    "invalid template '" ++ name ++ "' for " ++ language ++ ": " ++ error.message
  | .badRendering language role path error =>
    "failed to render " ++ role.name ++ " file '" ++ path ++ "' for " ++ language ++ ": "
      ++ error.message
  | .badSdk fault => "invalid backend config: " ++ fault.message

/-- The language the error belongs to, if it belongs to one. -/
def language? : GenerationError → Option String
  | .unsupportedLanguage language _ => some language
  | .badTemplate language _ _ => some language
  | .badRendering language _ _ _ => some language
  | .badSdk _ => none

end GenerationError

end ClientGen
