import ClientGen.Target.Builtin
import ClientGen.Text.Quoted

/-! # Catalogs of targets

Targets by name, sorted by name. The last target that is stored under a name counts.
-/

namespace ClientGen

/-- Targets by name, each name once, in the order of the names. -/
structure Catalog where
  entries : List (String × Target) := []

namespace Catalog

/-- Put an entry in its place. -/
def insertEntry (name : String) (target : Target) :
    List (String × Target) → List (String × Target)
  | [] => [(name, target)]
  | (other, old) :: rest =>
    if name = other then (name, target) :: rest
    else if name < other then (name, target) :: (other, old) :: rest
    else (other, old) :: insertEntry name target rest

def insert (catalog : Catalog) (name : String) (target : Target) : Catalog :=
  ⟨insertEntry name target catalog.entries⟩

/-- All built-in targets, for one package. -/
def ofBuiltins (sdk : Sdk) : Except GenerationError Catalog := do
  Target.checkSdk sdk
  Target.builtinLanguages.foldlM
    (fun catalog language => do return catalog.insert language (← Target.builtin language sdk))
    {}

def get? (catalog : Catalog) (name : String) : Option Target :=
  catalog.entries.lookup name

/-- The names, sorted. -/
def names (catalog : Catalog) : List String :=
  catalog.entries.map (·.1)

/-- The target of a name that has to be there. -/
def resolve (catalog : Catalog) (name : String) : Except GenerationError Target :=
  match catalog.get? name with
  | some target => .ok target
  | none => .error (.unsupportedLanguage name catalog.names)

def size (catalog : Catalog) : Nat :=
  catalog.entries.length

/-- The catalog as messages show it. -/
def shown (catalog : Catalog) : String :=
  "BackendRegistry \x7b languages: [" ++ ", ".intercalate (catalog.names.map Text.shown)
    ++ "] \x7d"

end Catalog

end ClientGen
