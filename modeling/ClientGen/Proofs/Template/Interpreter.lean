import ClientGen.Proofs.Template.Engines
import ClientGen.Proofs.Template.Extension
import ClientGen.Target.Basic

/-! # The interpreter as an engine

Templates are read and run by the interpreter. Functions are values there that are found again by
their names, so environments and data count that have none of them; what helpers and documents come
to is of this kind.
-/

namespace ClientGen.Template

namespace Environment

def onTexts (f : String → String → String) (passed : Passed) : Except Error Value := do
  let (first, passed) ← passed.text
  let (second, passed) ← passed.text
  passed.done
  return .str (f first second)

def onField (f : String → Bool → Bool → String) (passed : Passed) : Except Error Value := do
  let (source, passed) ← passed.text
  let (optional, passed) ← passed.take
  let optional ← Passed.toBool optional
  let (list, passed) ← passed.take
  let list ← Passed.toBool list
  passed.done
  return .str (f source optional list)

end Environment

/-- Environments, bindings and data without functions that are found by their names. -/
abbrev PlainEnvironment := { env : Environment // ∀ hidden, env.Avoids hidden }

abbrev PlainGlobal := { global : Global // ∀ hidden, global.Avoids hidden }

abbrev PlainValue := { v : Value // ∀ hidden, v.Avoids hidden }

namespace PlainEnvironment

def bind (env : PlainEnvironment) (name : String) (global : PlainGlobal) : PlainEnvironment :=
  ⟨env.1.bind name global.1, fun hidden =>
    List.forall_mem_cons.mpr ⟨global.2 hidden, env.2 hidden⟩⟩

/-- Store a template, unless it cannot be read. -/
def add (env : PlainEnvironment) (name source : String) : PlainEnvironment × Except Error Unit :=
  match Stmt.readAll name source with
  | .ok stmts => (⟨{ env.1 with templates := (name, stmts) :: env.1.templates }, env.2⟩, .ok ())
  | .error error => (env, .error error)

def binding? (env : PlainEnvironment) (name : String) : Option PlainGlobal :=
  (env.1.globals.lookup name).pmap Subtype.mk fun _ found hidden =>
    env.2 hidden _ (mem_of_lookup found)

variable {env other : PlainEnvironment} {name source : String} {stmts : List Stmt}

theorem binding?_eq_iff {found : Option PlainGlobal} :
    env.binding? name = found ↔ env.1.globals.lookup name = found.map (·.1) := by
  have looked : (env.binding? name).map (·.1) = env.1.globals.lookup name := by
    rw [binding?, Option.map_pmap, Option.pmap_eq_map, Option.map_id']
  rw [← looked]
  exact (Option.map_injective Subtype.val_injective).eq_iff.symm

theorem binding?_eq_binding?_iff : env.binding? name = other.binding? name ↔
    env.1.globals.lookup name = other.1.globals.lookup name := by
  rw [binding?_eq_iff, ← binding?_eq_iff.mp (rfl : other.binding? name = _)]

theorem binding?_bind (env : PlainEnvironment) (name : String) (global : PlainGlobal)
    (other : String) : (env.bind name global).binding? other
      = if other = name then some global else env.binding? other := by
  rw [binding?_eq_iff]
  show List.lookup other ((name, global.1) :: env.1.globals) = _
  rw [lookup_cons_eq]
  split
  · rfl
  · exact binding?_eq_iff.mp rfl

theorem add_of_error {error : Error} (unread : Stmt.readAll name source = .error error) :
    env.add name source = (env, .error error) := by
  rw [add, unread]

theorem add_of_ok (read : Stmt.readAll name source = .ok stmts) : env.add name source
    = (⟨{ env.1 with templates := (name, stmts) :: env.1.templates }, env.2⟩, .ok ()) := by
  rw [add, read]

theorem lookup_templates_add {id : String} (read : Stmt.readAll name source = .ok stmts) :
    (env.add name source).1.1.templates.lookup id
      = if id = name then some stmts else env.1.templates.lookup id := by
  rw [add_of_ok read, lookup_cons_eq]

theorem binding?_add {id : String} (read : Stmt.readAll name source = .ok stmts) :
    (env.add name source).1.binding? id = env.binding? id := by
  rw [binding?_eq_binding?_iff, add_of_ok read]

end PlainEnvironment

namespace Environment

/-- The interpreter. What a template mentions may be looked up, and so may be what those mention that
    it can include. -/
@[reducible] def engine : Engine where
  Env := PlainEnvironment
  Binding := PlainGlobal
  Body := List Stmt
  Argument := Value
  Data := PlainValue
  Error := Error
  ofJson data := ⟨.ofJson data, fun _ => Value.avoids_ofJson data⟩
  constant data := ⟨.value data.1, data.2⟩
  onText f := ⟨.function (Filters.onText f), fun _ _ _ => Filters.avoids_onText⟩
  onTexts f := ⟨.function (onTexts f), fun _ _ _ => .seq fun _ => .seq fun _ => .seq fun _ =>
    .ok (.str _)⟩
  onField f := ⟨.function (onField f), fun _ _ _ => .seq fun _ => .seq fun _ => .seq fun _ =>
    .seq fun _ => .seq fun _ => .seq fun _ => .ok (.str _)⟩
  onArgument f := ⟨.function (Filters.onValue fun value => .ok (.str (f value))),
    fun _ _ _ => .seq fun _ => .seq fun _ => .ok (.str _)⟩
  text? value := match value with
    | .str s => some s
    | _ => none
  shown := Value.text
  fresh := PlainEnvironment.bind ⟨{}, fun _ => List.forall_mem_nil _⟩ "range"
    ⟨.function range, fun _ _ _ => avoids_range⟩
  bind := PlainEnvironment.bind
  read := Stmt.readAll
  add := PlainEnvironment.add
  template? env name := env.1.templates.lookup name
  binding? := PlainEnvironment.binding?
  notStored name := { kind := .templateNotFound,
                      detail := some ("template " ++ Text.shown name ++ " does not exist") }
  run env name stmts data := env.1.run name stmts data.1
  mentions := bodyNames
  LooksUp env names _ stmts _ :=
    ∃ used, (used = stmts ∨ ∃ id, env.1.templates.lookup id = some used) ∧
      ∃ id ∈ bodyNames used, id ∈ names
  AsksFor env templates name stmts data := env.1.asksFor templates name stmts data.1

section Alike

variable {env other : Environment}

/-- Two environments store the same templates and bind the same names. -/
structure Alike (env other : Environment) : Prop where
  templates_eq (name : String) : env.templates.lookup name = other.templates.lookup name
  globals_eq (name : String) : env.globals.lookup name = other.globals.lookup name

namespace Alike

variable (alike : Alike env other)
include alike

theorem constant?_eq : env.constant? = other.constant? := by
  funext name
  rw [constant?, constant?, alike.globals_eq]

theorem function?_eq : env.function? = other.function? := by
  funext name
  rw [function?, function?, alike.globals_eq]

theorem firstStored_eq : env.firstStored = other.firstStored := by
  funext names
  induction names with
  | nil => rfl
  | cons v rest ih =>
      cases v with
      | str name =>
          rw [firstStored, firstStored, alike.templates_eq, ih]
      | undefined | none | bool | int | float | list | series | map | function | routine | loop =>
          rfl

theorem setting_eq (template : String) (fuel : Nat) :
    env.setting template fuel = other.setting template fuel := by
  induction fuel generalizing template with
  | zero => rw [setting, setting, alike.constant?_eq, alike.function?_eq]
  | succ fuel ih =>
      rw [setting, setting, alike.constant?_eq, alike.function?_eq, alike.firstStored_eq, ih]
      simp only [ih]

theorem run_eq : env.run = other.run := by
  funext name stmts data
  rw [run, run, alike.setting_eq]

end Alike

end Alike

theorem engine_stores : engine.Stores where
  template?_fresh _ := rfl
  binding?_bind := PlainEnvironment.binding?_bind
  template?_bind _ _ _ _ := rfl
  add_of_error _ := PlainEnvironment.add_of_error
  add_of_ok _ read := congrArg (·.2) (PlainEnvironment.add_of_ok read)
  template?_add _ _ read := PlainEnvironment.lookup_templates_add read
  binding?_add _ _ read := PlainEnvironment.binding?_add read
  run_congr templates bindings := by
    have alike : Alike _ _ :=
      ⟨templates, fun name => PlainEnvironment.binding?_eq_binding?_iff.mp (bindings name)⟩
    funext name stmts data
    exact congrFun (congrFun (congrFun alike.run_eq name) stmts) data.1

theorem engine_observes : engine.Observes where
  run_eq {env other names templates name stmts data} bindings stored unseen unasked := by
    have beside : Beside names templates env.1 other.1 :=
      ⟨fun free => PlainEnvironment.binding?_eq_binding?_iff.mp (bindings _ free), stored _⟩
    have free {used : List Stmt}
        (there : used = stmts ∨ ∃ id, env.1.templates.lookup id = some used) :
        names.Disjoint (bodyNames used) :=
      fun id named mem => unseen ⟨used, there, id, mem, named⟩
    exact run_eq_of_beside beside (env.2 names) (fun id used found => free (.inr ⟨id, found⟩))
      (free (.inl rfl)) (data.2 names) (Bool.eq_false_iff.mpr unasked)
  mentions_of_looksUp seen := by
    obtain ⟨used, there, id, mem, named⟩ := seen
    exact ⟨used, there, id, mem, .inl named⟩

/-- What targets do with environments is what the interpreter does, as an engine. -/
theorem addTemplate_eq (language name source : String) (env : PlainEnvironment) :
    Target.addTemplate language name source env.1
      = (engine.addTemplate language name source env).2.map
          fun _ => (engine.addTemplate language name source env).1.1 := by
  rw [Target.addTemplate, Environment.add, Engine.addTemplate]
  cases read : Stmt.readAll name source with
  | ok stmts =>
      have added : engine.add env name source = _ := PlainEnvironment.add_of_ok read
      rw [added]
      rfl
  | error error =>
      have refused : engine.add env name source = _ := PlainEnvironment.add_of_error read
      rw [refused]
      rfl

theorem bindLiteral_val (env : PlainEnvironment) (quoting : Text.Quoting) :
    (engine.bindLiteral env quoting).1 = env.1.bindLiteral quoting := by
  have same : engine.literal quoting = literal quoting := by
    funext value
    cases value <;> rfl
  show env.1.bind "literal" (.function (Filters.onValue fun value =>
    .ok (.str (engine.literal quoting value)))) = _
  rw [same]
  rfl

theorem standard_val : engine.standard.1 = standard :=
  bindLiteral_val _ .json

theorem render_eq_render (env : PlainEnvironment) (name : String) (data : PlainValue) :
    engine.render env name data = env.1.render name data.1 := by
  have looked : engine.template? env name = env.1.templates.lookup name := rfl
  rw [Engine.render, looked, render]
  cases env.1.templates.lookup name <;> rfl

theorem renderText_eq_renderText (env : PlainEnvironment) (source : String) (data : PlainValue) :
    engine.renderText env source data = env.1.renderText source data.1 := rfl

end Environment

end ClientGen.Template
