import ClientGen.Proofs.Template.Rendering
import ClientGen.Target.Backend
import ClientGen.TypeMap
import Mathlib.Data.List.Forall2

/-! # Forms of generated sources

What sources look like in each language, without templates. A method is first put into the
words of the language; its signature, its parameter map and its call are then all written
from these words. A type is written in passes over its parts.
-/

namespace ClientGen.Target

open Template

/-- What a client says about its API apart from the methods. -/
structure Heading where
  package : String
  apiPath : String
  apiVersion : ApiVersion
  packageName : String
  moduleName : String

def heading (api : Api) : Heading :=
  ⟨api.package, api.apiPath, api.apiVersion, api.resolvedPackageName, api.resolvedModuleName⟩

/-- A parameter in the words of a language. -/
structure Argument where
  /-- The key that the server knows it by. -/
  key : String
  identifier : String
  type : String

/-- A method in the words of a language. -/
structure Routine where
  /-- The name that the server knows it by. -/
  key : String
  identifier : String
  arguments : List Argument
  /-- The type of the result, if there is one. -/
  result : Option String
  description : Option String

/-- The form of client sources in a language. -/
structure ClientForm where
  language : String
  methodName : String → String
  paramName : String → String
  /-- Everything before the methods. -/
  head : Sdk → Heading → String
  /-- A description above the signature of a name. -/
  comment (identifier description : String) : String
  /-- A signature up to its parentheses. -/
  opening (moduleName : String) (result : Option String) (identifier : String) : String
  /-- The parameters that every method has. -/
  receiver : List String
  declaration : Argument → String
  /-- A signature from its closing parenthesis on. -/
  closing (result : Option String) : String
  /-- A description below the signature. -/
  docstring (description : String) : String
  mapOpening : String
  entry : Argument → String
  mapClosing : String
  /-- The call of a method, and what becomes of the value. -/
  call (key : String) (result : Option String) : String
  ending : String
  /-- Everything behind the methods. -/
  foot : String

namespace ClientForm

variable (form : ClientForm)

def argument (param : Param) : Argument :=
  ⟨param.name, form.paramName param.name, TypeMap.target param.typeName form.language⟩

/-- A method in the words of the language. An empty result or description counts as none. -/
def routine (name : String) (params : List Param) (returns description : Option String) :
    Routine :=
  { key := name, identifier := form.methodName name,
    arguments := params.map form.argument,
    result := (stated returns).map (TypeMap.target · form.language),
    description := stated description }

def signature (moduleName : String) (r : Routine) : String :=
  form.opening moduleName r.result r.identifier ++ "("
    ++ ", ".intercalate (form.receiver ++ r.arguments.map form.declaration)
    ++ form.closing r.result

def parameterMap (r : Routine) : String :=
  form.mapOpening ++ String.join (r.arguments.map form.entry) ++ form.mapClosing

/-- The source of a method. -/
def block (moduleName : String) (r : Routine) : String :=
  "\n" ++ (r.description.map (form.comment r.identifier)).getD ""
    ++ form.signature moduleName r
    ++ (r.description.map form.docstring).getD ""
    ++ form.parameterMap r ++ form.call r.key r.result ++ form.ending

/-- The source of a method of an API. -/
def method (moduleName : String) (m : Method) : String :=
  form.block moduleName (form.routine m.name m.params m.returns m.description)

/-- The source of a client. -/
def client (sdk : Sdk) (api : Api) : String :=
  form.head sdk (heading api)
    ++ String.join (api.methods.map (form.method api.resolvedModuleName)) ++ form.foot

end ClientForm

/-- One pass over the parts of a type. -/
structure Pass (α : Type) where
  /-- What stands before the parts, for a type of this name. -/
  opening (name : String) : String
  /-- What stands for a part, which may be the last one. -/
  part (name : String) (last : Bool) : α → String
  /-- What stands in place of the parts if there are none. -/
  placeholder : String := ""

def Pass.text {α : Type} (pass : Pass α) (name : String) (parts : List α) : String :=
  pass.opening name
    ++ if parts.isEmpty then pass.placeholder else joinRounds (pass.part name) parts

theorem Pass.text_eq_join {α : Type} (pass : Pass α) {name : String} {part : α → String}
    (plain : pass.placeholder = "") (same : pass.part name = fun _ => part) (parts : List α) :
    pass.text name parts = pass.opening name ++ String.join (parts.map part) := by
  rw [Pass.text, plain, same, ite_joinRounds, joinRounds_eq_join]

/-- The form of a type: passes over its parts, and an end. -/
structure TypeForm (α : Type) where
  passes : List (Pass α)
  closing (name : String) : String

def TypeForm.block {α : Type} (form : TypeForm α) (name : String) (parts : List α) : String :=
  String.join (form.passes.map (·.text name parts)) ++ form.closing name

/-- Every pass shows each of the parts. -/
def TypeForm.ShowsParts {α : Type} (form : TypeForm α) : Prop :=
  form.passes ≠ [] ∧ ∀ pass ∈ form.passes, ∀ name last part, pass.part name last part ≠ ""

theorem append_ne_empty {s t : String} (ending : t ≠ "") : s ++ t ≠ "" := by
  simp [ending]

/-- The form of types files in a language. -/
structure TypesForm where
  head (sdk : Sdk) (package : String) : String
  record : TypeForm Field
  enum : TypeForm Member

/-- The source of a types file. -/
def TypesForm.source (form : TypesForm) (sdk : Sdk) (types : Types) : String :=
  form.head sdk types.package
    ++ String.join (types.types.map fun type => form.record.block type.name type.fields)
    ++ String.join (types.enums.map fun enum => form.enum.block enum.name enum.values)

/-- The form of packages in a language: where their files go and what they say. -/
structure PackageForm where
  client : ClientForm
  types : TypesForm
  clientPath : Sdk → String
  typesPath : Sdk → String
  /-- Paths and texts of the files next to the client and the types. -/
  additional : Sdk → List (String × String)

/-- The paths of the files of a package. -/
def PackageForm.paths (form : PackageForm) (sdk : Sdk) : List String :=
  form.clientPath sdk :: form.typesPath sdk :: (form.additional sdk).map (·.1)

/-- The target writes packages of the form, whatever it is given. -/
structure PackageForm.Describes (form : PackageForm) (sdk : Sdk) (target : Target) : Prop where
  clientPath : target.clientPath = form.clientPath sdk
  typesPath : target.typesPath = form.typesPath sdk
  emitClient (api : Api) : target.emitClient api = .ok (form.client.client sdk api)
  emitTypes (types : Types) : target.emitTypes types = .ok (form.types.source sdk types)
  additional : List.Forall₂
    (fun file (path, text) => file.path = path ∧ target.backend.emitAdditional file = .ok text)
    target.additional (form.additional sdk)
  distinct : (form.paths sdk).Nodup

/-- The line that a manifest says about its package. -/
def summary (sdk : Sdk) : String :=
  if sdk.description.isEmpty then "Generated client for " ++ sdk.name else sdk.description

end ClientGen.Target
