import ClientGen.Naming
import ClientGen.Template.Evaluation
import ClientGen.Template.Reader

/-! # Template environments

A set of templates by name, with the functions and values that they share. A later binding
of a name replaces an earlier one, and a template sees the bindings of the time it is
rendered. Undefined values are errors.

Of the functions that come with the template language there is `range`, but not `dict`, `namespace`
or `debug`.
-/

namespace ClientGen.Template

/-- What a template can refer to by a name. -/
inductive Global where
  | value (v : Value)
  | function (f : Passed → Except Error Value)

/-- Templates and what they share. Of several entries with one name the first counts. -/
structure Environment where
  templates : List (String × List Stmt) := []
  globals : List (String × Global) := []

namespace Environment

def bind (env : Environment) (name : String) (global : Global) : Environment :=
  { env with globals := (name, global) :: env.globals }

/-- Bind a constant. -/
def bindValue (env : Environment) (name : String) (value : Value) : Environment :=
  env.bind name (.value value)

/-- Bind a function from text to text. -/
def bindHelper (env : Environment) (name : String) (f : String → String) : Environment :=
  env.bind name (.function (Filters.onText f))

/-- Bind a function of a type, whether it is optional, and whether it is a list. -/
def bindFieldHelper (env : Environment) (name : String) (f : String → Bool → Bool → String) :
    Environment :=
  env.bind name (.function fun passed => do
    let (source, passed) ← passed.text
    let (optional, passed) ← passed.take
    let optional ← Passed.toBool optional
    let (list, passed) ← passed.take
    let list ← Passed.toBool list
    passed.done
    return .str (f source optional list))

/-- A value as it is written in a source file: a text in quotes, anything else as it is
    printed. -/
def literal (quoting : Text.Quoting) : Value → String
  | .str s => quoting.quote s
  | value => value.text

/-- Choose how the function `literal` quotes texts. -/
def bindLiteral (env : Environment) (quoting : Text.Quoting) : Environment :=
  env.bind "literal" (.function (Filters.onValue fun value => .ok (.str (literal quoting value))))

/-- Whole numbers from `start` in steps, up to but without `stop`. -/
def rangeItems (start stop step : Int) : List Value :=
  let distance := if 0 < step then stop - start else start - stop
  let count := ((distance + step.natAbs - 1) / step.natAbs).toNat
  (List.range count).map fun (i : Nat) => .int (start + step * i)

/-- Whole numbers below a bound, or between two bounds, or in steps. -/
def range (passed : Passed) : Except Error Value := do
  let (first, passed) ← passed.take
  let first ← Passed.toInt "isize" first
  let (second, passed) ← optional passed "upper"
  let (step, passed) ← optional passed "step"
  passed.done
  let step := step.getD 1
  let (start, stop) := match second with
    | some second => (first, second)
    | none => (0, first)
  if step = 0 then .error (.invalid "cannot create range with step of 0")
  else if 100000 * step.natAbs < (stop - start).natAbs then
    .error (.invalid "range has too many elements")
  else return .series (rangeItems start stop step)
where
  optional (passed : Passed) (name : String) : Except Error (Option Int × Passed) := do
    match passed.take? name with
    | (some value, passed) => return (some (← Passed.toInt "isize" value), passed)
    | (none, passed) => return (none, passed)

/-- A comment of several lines, from a text and a comment marker. -/
def docComment (passed : Passed) : Except Error Value := do
  let (text, passed) ← passed.text
  let (marker, passed) ← passed.text
  passed.done
  return .str (Naming.docComment text marker)

/-- An environment without templates, with the functions that all environments have. -/
def standard : Environment :=
  let env := ({} : Environment).bind "range" (.function range)
  let env := env.bindHelper "camelCase" Naming.lowerCamel
  let env := env.bindHelper "snakeCase" Naming.snakeCase
  let env := env.bindHelper "upperCamel" Naming.upperCamel
  let env := env.bind "docComment" (.function docComment)
  env.bindLiteral .json

/-- Store a template under a name, unless it cannot be read. -/
def add (env : Environment) (name source : String) : Except Error Environment := do
  let stmts ← Stmt.readAll name source
  return { env with templates := (name, stmts) :: env.templates }

def constant? (env : Environment) (name : String) : Option Value :=
  match env.globals.lookup name with
  | some (.value v) => some v
  | some (.function _) => some (.function name)
  | none => none

def function? (env : Environment) (name : String) : Option (Passed → Except Error Value) :=
  match env.globals.lookup name with
  | some (.function f) => some f
  | _ => none

/-- The first of the named templates that is stored. -/
def firstStored (env : Environment) : List Value → Except Error (Option (String × List Stmt))
  | [] => .ok none
  | .str name :: rest =>
    match env.templates.lookup name with
    | some stmts => .ok (some (name, stmts))
    | none => env.firstStored rest
  | _ :: _ => .error (.invalid "template name was not a string")

/-- The names that an embedding statement lists. -/
def embeddedNames : Value → List Value
  | .list items | .series items => items
  | .map entries => entries.map (·.1)
  | value => [value]

/-- The error of an embedding statement none of whose templates is stored. -/
def notStored (names : List Value) : Error :=
  { kind := .templateNotFound,
    detail := some (match names with
      | [name] => "tried to include non-existing template " ++ name.inner
      | names => "tried to include one of multiple templates, none of which existed "
        ++ (Value.list names).text) }

/-- The setting of a template, with at most `fuel` nested calls. -/
def setting (env : Environment) (template : String) : Nat → Setting
  | 0 =>
    { template, constant? := env.constant?, function? := env.function?,
      routine := fun _ _ _ _ => tooDeep, embed := fun _ _ _ => tooDeep }
  | fuel + 1 =>
    { template, constant? := env.constant?, function? := env.function?,
      routine := callRoutine (env.setting template fuel),
      embed := fun scope names optional => do
        match ← env.firstStored (embeddedNames names) with
        | some (name, stmts) =>
          match runAll (env.setting name fuel) scope stmts with
          | .ok result => .ok result
          | .error _ =>
            .error { kind := .badInclude, detail := some ("error in " ++ Text.shown name) }
        | none =>
          let names := embeddedNames names
          if optional || names.isEmpty then .ok ("", scope) else .error (notStored names) }
where
  tooDeep {α : Type} : Except Error α :=
    .error (.invalid "recursion limit exceeded")

/-- Bounds the nesting of calls. -/
def maxDepth : Nat := 100

/-- The names that data binds: the fields of a map. -/
def frameOf : Value → Frame
  | .map entries => entries.filterMap fun (key, value) =>
    match key with
    | .str name => some (name, value)
    | _ => none
  | _ => []

/-- Run statements with data as the outermost scope. -/
def run (env : Environment) (name : String) (stmts : List Stmt) (data : Value) :
    Except Error String :=
  (runAll (env.setting name maxDepth) [frameOf data] stmts).map (·.1)

/-- Render a stored template. -/
def render (env : Environment) (name : String) (data : Value) : Except Error String :=
  match env.templates.lookup name with
  | some stmts => env.run name stmts data
  | none =>
    .error { kind := .templateNotFound,
             detail := some ("template " ++ Text.shown name ++ " does not exist") }

/-- Name of a template that is not stored. -/
def adHoc : String := "<string>"

/-- Render a template that is not stored. -/
def renderText (env : Environment) (source : String) (data : Value) : Except Error String := do
  env.run adHoc (← Stmt.readAll adHoc source) data

end Environment

end ClientGen.Template
