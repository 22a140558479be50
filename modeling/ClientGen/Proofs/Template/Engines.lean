import ClientGen.Json.Basic
import ClientGen.Naming
import ClientGen.Target.Error
import ClientGen.Text.Quoted

/-! # Template engines

An engine reads templates, keeps them in environments next to what names are bound to, and runs
them. Nothing is said here about the language of the templates. What a set of templates does with
an engine is to bind its helpers, to store templates and to render them; what it relies on are the
laws of `Stores`. Those of `Observes` say what a run can know about its environment: it looks names
up, and asks for templates to include, to import from or to extend.
-/

namespace ClientGen.Template

structure Engine where
  /-- Templates by name, and what names are bound to. -/
  Env : Type
  Binding : Type
  /-- A template that has been read. -/
  Body : Type
  /-- What a function is called with. -/
  Argument : Type
  /-- What a template is rendered with. -/
  Data : Type
  Error : Type
  ofJson : Json → Data
  constant : Data → Binding
  onText : (String → String) → Binding
  onTexts : (String → String → String) → Binding
  /-- A function of a type, whether it is optional, and whether it is a list. -/
  onField : (String → Bool → Bool → String) → Binding
  onArgument : (Argument → String) → Binding
  /-- The argument as a text, if it is one. -/
  text? : Argument → Option String
  shown : Argument → String
  /-- Without templates, and with the functions that the engine has by itself. -/
  fresh : Env
  bind : Env → String → Binding → Env
  read (name source : String) : Except Error Body
  /-- Store a template, or fail. What has become of the environment is told in both cases. -/
  add : Env → (name source : String) → Env × Except Error Unit
  template? : Env → String → Option Body
  binding? : Env → String → Option Binding
  notStored : String → Error
  run : Env → (name : String) → Body → Data → Except Error String
  /-- The names that a template mentions. -/
  mentions : Body → List String
  /-- Whether a run may look up one of the names. -/
  LooksUp : Env → (names : List String) → String → Body → Data → Prop
  /-- Whether a run may ask for one of the templates. -/
  AsksFor : Env → (templates : List String) → String → Body → Data → Prop

namespace Engine

/-- A template is read before it is stored, the last one of a name counts, and so does what a name
    has been bound to last. A run knows no more of its environment than that. -/
structure Stores (E : Engine) : Prop where
  template?_fresh (name : String) : E.template? E.fresh name = none
  binding?_bind (env : E.Env) (name : String) (binding : E.Binding) (other : String) :
    E.binding? (E.bind env name binding) other
      = if other = name then some binding else E.binding? env other
  template?_bind (env : E.Env) (name : String) (binding : E.Binding) (other : String) :
    E.template? (E.bind env name binding) other = E.template? env other
  add_of_error {name source : String} {error : E.Error} (env : E.Env) :
    E.read name source = .error error → E.add env name source = (env, .error error)
  add_of_ok {name source : String} {body : E.Body} (env : E.Env) :
    E.read name source = .ok body → (E.add env name source).2 = .ok ()
  template?_add {name source : String} {body : E.Body} (env : E.Env) (other : String) :
    E.read name source = .ok body → E.template? (E.add env name source).1 other
      = if other = name then some body else E.template? env other
  binding?_add {name source : String} {body : E.Body} (env : E.Env) (other : String) :
    E.read name source = .ok body →
      E.binding? (E.add env name source).1 other = E.binding? env other
  run_congr {env other : E.Env} : (∀ name, E.template? env name = E.template? other name) →
    (∀ name, E.binding? env name = E.binding? other name) → E.run env = E.run other

/-- What a run neither looks up nor asks for makes no difference to it. A run looks up what its
    template mentions, or one that is stored; only `debug` shows all that is bound. -/
structure Observes (E : Engine) : Prop where
  run_eq {env other : E.Env} {names templates : List String} {name : String} {body : E.Body}
    {data : E.Data} : (∀ id ∉ names, E.binding? other id = E.binding? env id) →
    (∀ id ∉ templates, E.template? other id = E.template? env id) →
    ¬E.LooksUp env names name body data → ¬E.AsksFor env templates name body data →
    E.run other name body data = E.run env name body data
  mentions_of_looksUp {env : E.Env} {names : List String} {name : String} {body : E.Body}
    {data : E.Data} : E.LooksUp env names name body data →
    ∃ used, (used = body ∨ ∃ id, E.template? env id = some used) ∧
      ∃ id ∈ E.mentions used, id ∈ names ∨ id = "debug"

variable (E : Engine)

/-- A value as it is written in a source file: a text in quotes, anything else as it is
    printed. -/
def literal (quoting : Text.Quoting) (argument : E.Argument) : String :=
  match E.text? argument with
  | some s => quoting.quote s
  | none => E.shown argument

def bindHelper (env : E.Env) (name : String) (f : String → String) : E.Env :=
  E.bind env name (E.onText f)

def bindFieldHelper (env : E.Env) (name : String) (f : String → Bool → Bool → String) : E.Env :=
  E.bind env name (E.onField f)

def bindConstant (env : E.Env) (name : String) (data : E.Data) : E.Env :=
  E.bind env name (E.constant data)

def bindLiteral (env : E.Env) (quoting : Text.Quoting) : E.Env :=
  E.bind env "literal" (E.onArgument (E.literal quoting))

/-- The environment that all sets of templates start with. -/
def standard : E.Env :=
  let env := E.bindHelper E.fresh "camelCase" Naming.lowerCamel
  let env := E.bindHelper env "snakeCase" Naming.snakeCase
  let env := E.bindHelper env "upperCamel" Naming.upperCamel
  let env := E.bind env "docComment" (E.onTexts Naming.docComment)
  E.bindLiteral env .json

def addTemplate (language name source : String) (env : E.Env) :
    E.Env × Except (GenerationError E.Error) Unit :=
  let (env, result) := E.add env name source
  (env, result.mapError (.badTemplate language name))

/-- Render a stored template. -/
def render (env : E.Env) (name : String) (data : E.Data) : Except E.Error String :=
  match E.template? env name with
  | some body => E.run env name body data
  | none => .error (E.notStored name)

/-- Name of a template that is not stored. -/
def adHoc : String := "<string>"

/-- Render a template that is not stored. -/
def renderText (env : E.Env) (source : String) (data : E.Data) : Except E.Error String := do
  E.run env adHoc (← E.read adHoc source) data

/-- Render a stored template as a file of a package. -/
def renderFile (env : E.Env) (language : String) (role : FileRole) (path name : String)
    (data : E.Data) : Except (GenerationError E.Error) String :=
  (E.render env name data).mapError (.badRendering language role path)

end Engine

end ClientGen.Template
