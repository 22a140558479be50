import ClientGen.Target.Context
import ClientGen.Target.Error
import ClientGen.Target.Layout
import ClientGen.Template.Environment

/-! # Targets

A target generates client packages in one language: it knows its templates, where each file
goes, and how the generated package is named.
-/

namespace ClientGen

open Template

/-- A file next to the client and the types, with a template of its own. -/
structure AdditionalFile where
  path : String
  template : String
  /-- What the template sees; nothing if absent. -/
  data : Option Json := none

/-- Render the file with the templates and functions of an environment. -/
def AdditionalFile.render (file : AdditionalFile) (env : Environment) :
    Except Template.Error String :=
  env.renderText file.template (Value.ofJson (file.data.getD (.obj [])))

/-- A target language, set up for one package. -/
structure Target where
  language : String
  /-- Extension of source files, with its dot. -/
  extension : String
  clientPath : String
  typesPath : String
  additional : List AdditionalFile
  layout : Layout
  sdk : Sdk
  /-- Holds the templates `client` and `types`. -/
  environment : Environment
  /-- What the templates of additional files can use. -/
  additionalEnvironment : Environment

namespace Target

def clientName : String := "client"

def typesName : String := "types"

/-- Store a template, as one of a language. -/
def addTemplate (language name source : String) (env : Environment) :
    Except GenerationError Environment :=
  (env.add name source).mapError (.badTemplate language name)

/-- Store the templates of the client and the types. -/
def addTemplates (language client types : String) (env : Environment) :
    Except GenerationError Environment := do
  addTemplate language typesName types (← addTemplate language clientName client env)

/-- The source of the client. -/
def emitClient (target : Target) (api : Api) : Except GenerationError String :=
  (target.environment.render clientName (clientContext api target.sdk)).mapError
    (.badRendering target.language .client target.clientPath)

/-- The source of the types. -/
def emitTypes (target : Target) (types : Types) : Except GenerationError String :=
  (target.environment.render typesName (typesContext types target.sdk)).mapError
    (.badRendering target.language .types target.typesPath)

/-- The text of an additional file. -/
def renderAdditional (target : Target) (file : AdditionalFile) : Except Template.Error String :=
  file.render target.additionalEnvironment

/-- Whether the package of a target can be named and versioned as asked for. -/
def checkSdk (sdk : Sdk) : Except GenerationError Unit :=
  sdk.check.mapError .badSdk

end Target

end ClientGen
