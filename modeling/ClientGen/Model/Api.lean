import ClientGen.Naming

/-! # The described API

The methods of a remote service, in the order in which they are declared.
-/

namespace ClientGen

/-- Which generation of the service the client talks to. -/
inductive ApiVersion where
  | v2 | v3 | both
  deriving Repr, DecidableEq, Inhabited

def ApiVersion.name : ApiVersion → String
  | .v2 => "v2"
  | .v3 => "v3"
  | .both => "both"

/-- A parameter and the source name of its type. -/
structure Param where
  name : String
  typeName : String
  deriving Repr, DecidableEq, Inhabited

/-- A remote method. -/
structure Method where
  name : String
  subPackage : String := ""
  version : String := ""
  params : List Param := []
  /-- Source name of the result type, if the method has a result. -/
  returns : Option String := none
  description : Option String := none
  deriving Repr, DecidableEq, Inhabited

/-- An API, the root of what a client is generated from. -/
structure Api where
  package : String
  apiPath : String := ""
  methods : List Method := []
  apiVersion : ApiVersion := .v3
  packageName : Option String := none
  moduleName : Option String := none
  deriving Repr, DecidableEq, Inhabited

/-- The package name, given or derived from the package identifier. -/
def Api.resolvedPackageName (api : Api) : String :=
  api.packageName.getD (Naming.packageOf api.package)

/-- The module name, given or derived from the package identifier. -/
def Api.resolvedModuleName (api : Api) : String :=
  api.moduleName.getD (Naming.packageOf api.package)

end ClientGen
