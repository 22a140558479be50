import ClientGen.Proofs.Template.Following
import ClientGen.Proofs.Template.Rendering

/-! # Environments with more names

An environment that differs from another one in some names and in some templates runs a template
just as the other one does, if no template mentions one of these names and no include asks for one
of these templates. Both are compared with a third one, in which these templates fail.
-/

namespace ClientGen.Template.Environment

variable {hidden stored : List String} {base env : Environment}

/-- Statements that fail. -/
def failure : List Stmt :=
  [.print 0 (.negate 0 (.literal .none))]

/-- The environment with templates that fail under the given names. -/
def failing (stored : List String) (base : Environment) : Environment :=
  { base with templates := stored.map (fun name => (name, failure)) ++ base.templates }

/-- Whether a template asks for one of the named templates when it is run: of all that can happen
    there, only the failure of a template that is included makes an include fail. -/
def asksFor (base : Environment) (stored : List String) (name : String) (stmts : List Stmt)
    (data : Value) : Bool :=
  match (base.failing stored).run name stmts data with
  | .ok _ => false
  | .error e => e.kind == .badInclude

/-- Whether the text of a template includes one of the named templates when it is rendered. -/
def includes (base : Environment) (stored : List String) (source : String) (data : Value) : Bool :=
  match Stmt.readAll adHoc source with
  | .ok stmts => base.asksFor stored adHoc stmts data
  | .error _ => false

example : includes .standard ["types"] "\x7b% include \"types\" ignore missing %\x7d" (.map [])
    = true := by
  decide +kernel

/-- The environments bind the same but for hidden names, and store the same but for the given
    templates. -/
structure Beside (hidden stored : List String) (base env : Environment) : Prop where
  globals_eq {name : String} : name ∉ hidden → env.globals.lookup name = base.globals.lookup name
  templates_eq {name : String} :
    name ∉ stored → env.templates.lookup name = base.templates.lookup name

/-- No template of the environment mentions a hidden name. -/
def Unmentioned (hidden : List String) (env : Environment) : Prop :=
  ∀ name stmts, env.templates.lookup name = some stmts → hidden.Disjoint (bodyNames stmts)

theorem Beside.refl : Beside hidden stored base base where
  globals_eq _ := rfl
  templates_eq _ := rfl

theorem lookup_failing {name : String} :
    (base.failing stored).templates.lookup name
      = if name ∈ stored then some failure else base.templates.lookup name := by
  rw [failing]
  dsimp only
  induction stored with
  | nil => rfl
  | cons other rest ih =>
      rw [List.map_cons, List.cons_append, lookup_cons_eq, ih]
      by_cases same : name = other
      · simp [same]
      · simp [same]

/-- A search comes first to a template that fails, or it finds the same in both environments. -/
theorem firstStored_cases (beside : Beside hidden stored base env) (names : List Value) :
    (∃ name, (base.failing stored).firstStored names = .ok (some (name, failure))) ∨
      env.firstStored names = (base.failing stored).firstStored names ∧
        ∀ name stmts, env.firstStored names = .ok (some (name, stmts)) →
          base.templates.lookup name = some stmts := by
  induction names with
  | nil => exact .inr ⟨rfl, nofun⟩
  | cons v rest ih =>
      cases v with
      | str name =>
          rw [firstStored, firstStored, lookup_failing]
          by_cases there : name ∈ stored
          · exact .inl ⟨name, by rw [if_pos there]⟩
          · rw [if_neg there, beside.templates_eq there]
            cases found : base.templates.lookup name with
            | none => exact ih
            | some stmts =>
                refine .inr ⟨rfl, ?_⟩
                rintro _ _ ⟨⟩
                exact found
      | undefined | none | bool | int | float | list | series | map | function | routine | loop =>
          exact .inr ⟨rfl, nofun⟩

theorem constant?_avoids (env : Environment) (avoids : env.Avoids hidden) {name : String} {v : Value}
    (free : name ∉ hidden) (found : env.constant? name = some v) : v.Avoids hidden := by
  rw [constant?] at found
  split at found
  · rename_i bound
    cases found
    exact avoids _ (mem_of_lookup bound)
  · cases found
    exact .function free
  · cases found

theorem function?_avoids (env : Environment) (avoids : env.Avoids hidden) {name : String}
    {f : Passed → Except Error Value} {passed : Passed} (found : env.function? name = some f)
    (h : passed.Avoids hidden) : Returns (Value.Avoids hidden) (f passed) := by
  rw [function?] at found
  split at found
  · rename_i bound
    cases found
    exact avoids _ (mem_of_lookup bound) passed h
  · cases found

/-- What settings of the two environments share with calls and includes of any depth. -/
theorem agree_of_nested (beside : Beside hidden stored base env) (avoids : base.Avoids hidden)
    {template : String} {fuel : Nat}
    (routine : ∀ {scope : Scope} {params : Params} {body : List Stmt} {passed : Passed},
      Scope.Avoids hidden scope → hidden.Disjoint (paramNames params) →
      hidden.Disjoint (bodyNames body) → passed.Avoids hidden →
      Follows (Value.Avoids hidden)
        (((base.failing stored).setting template fuel).routine scope params body passed)
        ((env.setting template fuel).routine scope params body passed))
    (embed : ∀ {scope : Scope} {v : Value} {optional : Bool}, Scope.Avoids hidden scope →
      Follows (fun ran => Scope.Avoids hidden ran.2)
        (((base.failing stored).setting template fuel).embed scope v optional)
        ((env.setting template fuel).embed scope v optional)) :
    ((base.failing stored).setting template fuel).Agree hidden (env.setting template fuel) where
  template_eq := by cases fuel <;> rfl
  constant?_eq free := by
    rw [setting_constant?, setting_constant?, constant?, constant?, beside.globals_eq free]
    rfl
  constant?_avoids free found := by
    rw [setting_constant?] at found
    exact (base.failing stored).constant?_avoids avoids free found
  function?_eq free := by
    rw [setting_function?, setting_function?, function?, function?, beside.globals_eq free]
    rfl
  function?_avoids _ found h := by
    rw [setting_function?] at found
    exact (base.failing stored).function?_avoids avoids found h
  routine_follows := routine
  embed_follows := embed

/-- An include of a template that fails is the failure of an include. Any other template runs alike
    one level further down. -/
theorem embed_follows (beside : Beside hidden stored base env) (unmentioned : base.Unmentioned hidden)
    {template : String} {fuel : Nat} {scope : Scope} {v : Value} {optional : Bool}
    (hscope : Scope.Avoids hidden scope)
    (nested : ∀ template, ((base.failing stored).setting template fuel).Agree hidden
      (env.setting template fuel)) :
    Follows (fun ran => Scope.Avoids hidden ran.2)
      (((base.failing stored).setting template (fuel + 1)).embed scope v optional)
      ((env.setting template (fuel + 1)).embed scope v optional) := by
  rw [setting, setting]
  dsimp only
  obtain ⟨name, asked⟩ | ⟨same, found⟩ := firstStored_cases beside (embeddedNames v)
  · have failed : (runAll ((base.failing stored).setting name fuel) scope failure).isOk = false := rfl
    rw [asked, ok_bind]
    dsimp only
    cases ran : runAll ((base.failing stored).setting name fuel) scope failure with
    | ok result => rw [ran] at failed; cases failed
    | error e => exact .inl ⟨_, rfl, rfl⟩
  · rw [← same]
    cases searched : env.firstStored (embeddedNames v) with
    | error e => exact .error
    | ok result =>
        rw [ok_bind, ok_bind]
        cases result with
        | none =>
            dsimp only
            split
            · exact .ok hscope
            · exact .error
        | some entry =>
            obtain ⟨name, stmts⟩ := entry
            have free := unmentioned name stmts (found name stmts searched)
            dsimp only
            obtain ⟨e, failed, -⟩ | ⟨ran, returns⟩ := runAll_follows (nested name) hscope free
            · rw [failed]
              exact .inl ⟨_, rfl, rfl⟩
            · rw [ran]
              split
              · rename_i result done
                exact .ok (returns result done)
              · exact .error

theorem setting_agree (beside : Beside hidden stored base env) (avoids : base.Avoids hidden)
    (unmentioned : base.Unmentioned hidden) (template : String) (fuel : Nat) :
    ((base.failing stored).setting template fuel).Agree hidden (env.setting template fuel) := by
  induction fuel generalizing template with
  | zero => exact agree_of_nested beside avoids (fun _ _ _ _ => .error) fun _ => .error
  | succ fuel ih =>
      refine agree_of_nested beside avoids (fun hscope freeParams free hpassed => ?_) fun hscope => ?_
      · exact callRoutine_follows (ih template) hscope freeParams free hpassed
      · exact embed_follows beside unmentioned hscope ih

section Runs

variable {name : String} {stmts : List Stmt} {data : Value}

theorem run_follows (beside : Beside hidden stored base env) (avoids : base.Avoids hidden)
    (unmentioned : base.Unmentioned hidden) (free : hidden.Disjoint (bodyNames stmts))
    (hdata : data.Avoids hidden) :
    Follows (fun _ => True) ((base.failing stored).run name stmts data)
      (env.run name stmts data) := by
  have hscope : Scope.Avoids hidden [frameOf data] :=
    Scope.avoids_cons (avoids_frameOf hdata) (List.forall_mem_nil _)
  have ran := runAll_follows (setting_agree beside avoids unmentioned name maxDepth) hscope free
  exact ran.map fun _ _ => trivial

theorem run_eq_failing (beside : Beside hidden stored base env) (avoids : base.Avoids hidden)
    (unmentioned : base.Unmentioned hidden) (free : hidden.Disjoint (bodyNames stmts))
    (hdata : data.Avoids hidden) (apart : base.asksFor stored name stmts data = false) :
    env.run name stmts data = (base.failing stored).run name stmts data := by
  rw [asksFor] at apart
  obtain ⟨e, failed, kind⟩ | ⟨ran, -⟩ := run_follows beside avoids unmentioned free hdata
  · rw [failed] at apart
    simp [kind] at apart
  · exact ran

/-- A template that mentions no hidden name and asks for none of the templates in which environments
    differ runs alike in both. -/
theorem run_eq_of_beside (beside : Beside hidden stored base env) (avoids : base.Avoids hidden)
    (unmentioned : base.Unmentioned hidden) (free : hidden.Disjoint (bodyNames stmts))
    (hdata : data.Avoids hidden) (apart : base.asksFor stored name stmts data = false) :
    env.run name stmts data = base.run name stmts data := by
  rw [run_eq_failing beside avoids unmentioned free hdata apart,
    run_eq_failing Beside.refl avoids unmentioned free hdata apart]

end Runs

end ClientGen.Template.Environment
