import ClientGen.Template.Environment
import Mathlib.Data.List.Basic

/-! # Names that templates mention

A template mentions a name where it asks for its value or calls it. What it binds a name to is no
mention, and neither are names of parts, filters and tests. A value avoids hidden names if it is
none of the functions of these names and no routine in it mentions one: computing with such values
gives such values again.
-/

namespace ClientGen.Template

mutual

/-- The names that an expression mentions. -/
def Expr.names : Expr → List String
  | .literal _ => []
  | .name id => [id]
  | .list items => itemNames items
  | .map entries => entryNames entries
  | .negate _ e | .not _ e | .attribute _ e _ => e.names
  | .both _ a b | .either _ a b | .binary _ _ a b | .item _ a b => a.names ++ b.names
  | .choice _ test yes no => test.names ++ (yes.names ++ optionNames no)
  | .slice _ e start stop step =>
      e.names ++ (optionNames start ++ (optionNames stop ++ optionNames step))
  | .call _ function args => function :: argNames args
  | .callMethod _ e _ args | .callValue _ e args | .filter _ e _ args | .test _ e _ args =>
      e.names ++ argNames args

def itemNames : List Expr → List String
  | [] => []
  | item :: rest => item.names ++ itemNames rest

def entryNames : List (Expr × Expr) → List String
  | [] => []
  | (key, value) :: rest => key.names ++ (value.names ++ entryNames rest)

def argNames : Args → List String
  | [] => []
  | (_, value) :: rest => value.names ++ argNames rest

def optionNames : Option Expr → List String
  | none => []
  | some e => e.names

end

mutual

/-- The names that a target mentions. -/
def Target.names : Target → List String
  | .name _ => []
  | .attribute subject => subject.names
  | .list targets => targetNames targets

def targetNames : List Target → List String
  | [] => []
  | target :: rest => target.names ++ targetNames rest

end

/-- The names that defaults of parameters mention. -/
def paramNames (params : Params) : List String :=
  params.flatMap fun param => optionNames param.2

def filterNames (filters : List TextFilter) : List String :=
  filters.flatMap fun filter => argNames filter.args

def bindingNames (bindings : List (Target × Expr)) : List String :=
  bindings.flatMap fun binding => binding.2.names ++ binding.1.names

def keepNames : Option (Nat × Expr) → List String
  | none => []
  | some (_, condition) => condition.names

mutual

/-- The names that a statement mentions. -/
def Stmt.names : Stmt → List String
  | .text _ => []
  | .print _ e | .embed _ e _ => e.names
  | .branch _ test yes no => test.names ++ (bodyNames yes ++ bodyNames no)
  | .each _ target source keep body otherwise =>
      source.names ++ (target.names ++ (keepNames keep ++ (bodyNames body ++ bodyNames otherwise)))
  | .assign _ target value => value.names ++ target.names
  | .capture _ target filters body => bodyNames body ++ (filterNames filters ++ target.names)
  | .scope _ bindings body => bindingNames bindings ++ bodyNames body
  | .filtered filters body => bodyNames body ++ filterNames filters
  | .define _ params body => paramNames params ++ bodyNames body

def bodyNames : List Stmt → List String
  | [] => []
  | stmt :: rest => stmt.names ++ bodyNames rest

end

/-- The names that a template mentions, if it can be read. -/
def mentioned (source : String) : List String :=
  match Stmt.readAll Environment.adHoc source with
  | .ok stmts => bodyNames stmts
  | .error _ => []

/-- The value is no function of a hidden name, and no routine in it mentions one. -/
inductive Value.Avoids (hidden : List String) : Value → Prop
  | undefined (silent : Bool) : Avoids hidden (.undefined silent)
  | none : Avoids hidden .none
  | bool (b : Bool) : Avoids hidden (.bool b)
  | int (i : Int) : Avoids hidden (.int i)
  | float (x : Float) : Avoids hidden (.float x)
  | str (s : String) : Avoids hidden (.str s)
  | list {items : List Value} : (∀ v ∈ items, Avoids hidden v) → Avoids hidden (.list items)
  | series {items : List Value} : (∀ v ∈ items, Avoids hidden v) → Avoids hidden (.series items)
  | map {entries : List (Value × Value)} :
    (∀ e ∈ entries, Avoids hidden e.1) → (∀ e ∈ entries, Avoids hidden e.2) →
    Avoids hidden (.map entries)
  | function {name : String} : name ∉ hidden → Avoids hidden (.function name)
  | routine (name : String) {params : Params} {body : List Stmt} (depth : Nat) :
    hidden.Disjoint (paramNames params) → hidden.Disjoint (bodyNames body) →
    Avoids hidden (.routine name params body depth)
  | loop (index length : Nat) {previous next : Value} {compared : Option (List Value)} :
    Avoids hidden previous → Avoids hidden next →
    (∀ values, compared = some values → ∀ v ∈ values, Avoids hidden v) →
    Avoids hidden (.loop index length previous next compared)

/-- The arguments avoid hidden names. -/
structure Passed.Avoids (hidden : List String) (passed : Passed) : Prop where
  values : ∀ v ∈ passed.values, v.Avoids hidden
  named : ∀ entry ∈ passed.named, entry.2.Avoids hidden

def Frame.Avoids (hidden : List String) (frame : Frame) : Prop :=
  ∀ entry ∈ frame, entry.2.Avoids hidden

def Scope.Avoids (hidden : List String) (scope : Scope) : Prop :=
  ∀ frame ∈ scope, Frame.Avoids hidden frame

/-- If there is a result, it has the property. -/
def Returns {α : Type} (P : α → Prop) (result : Except Error α) : Prop :=
  ∀ a, result = .ok a → P a

section Returns

variable {α β : Type} {P : α → Prop} {Q : β → Prop} {a : α} {e : Error}
  {result : Except Error α} {f : α → Except Error β} {g : α → β}

theorem Returns.ok (h : P a) : Returns P (.ok a) := by
  rintro _ ⟨⟩
  exact h

theorem Returns.error : Returns P (.error e) := by
  rintro _ ⟨⟩

theorem Returns.bind (h : Returns P result) (next : ∀ a, P a → Returns Q (f a)) :
    Returns Q (result >>= f) := by
  cases result with
  | error e => exact .error
  | ok a => exact next a (h a rfl)

/-- What the rest returns does not depend on what the first step gives. -/
theorem Returns.seq (next : ∀ a, Returns Q (f a)) : Returns Q (result >>= f) :=
  Returns.bind (P := fun _ => True) (fun _ _ => trivial) fun a _ => next a

theorem Returns.map (h : Returns P result) (next : ∀ a, P a → Q (g a)) :
    Returns Q (result.map g) := by
  cases result with
  | error e => exact .error
  | ok a => exact .ok (next a (h a rfl))

end Returns

section Parts

variable {hidden : List String} {value key v : Value} {items : List Value}
  {entries : List (Value × Value)}

/-- All of the values avoid hidden names. -/
abbrev AllAvoid (hidden : List String) (items : List Value) : Prop :=
  ∀ v ∈ items, v.Avoids hidden

namespace Value

theorem avoids_missing : missing.Avoids hidden :=
  .undefined false

theorem avoids_characters {s : String} : AllAvoid hidden (characters s) := by
  intro v mem
  obtain ⟨c, -, rfl⟩ := List.mem_map.mp mem
  exact .str _

theorem avoids_getElem? {i : Nat} (h : AllAvoid hidden items) (found : items[i]? = some v) :
    v.Avoids hidden :=
  h v (List.mem_of_getElem? found)

theorem avoids_lookup? (h : ∀ e ∈ entries, e.2.Avoids hidden)
    (found : lookup? entries key = some v) : v.Avoids hidden := by
  obtain ⟨e, there, rfl⟩ := Option.map_eq_some_iff.mp found
  exact h e (List.mem_of_find?_eq_some there)

theorem avoids_loopAttribute? {index length : Nat} {previous next : Value} {name : String}
    (before : previous.Avoids hidden) (behind : next.Avoids hidden)
    (found : loopAttribute? index length previous next name = some v) : v.Avoids hidden := by
  rw [loopAttribute?.eq_def] at found
  split at found <;> cases found <;>
    first
    | exact .int _
    | exact .bool _
    | assumption

theorem Avoids.part? (h : value.Avoids hidden) (found : value.part? key = some v) :
    v.Avoids hidden := by
  cases h with
  | undefined | none | bool | int | float | function => cases found
  | str s =>
      obtain ⟨i, -, there⟩ := Option.bind_eq_some_iff.mp found
      exact avoids_getElem? avoids_characters there
  | list h | series h =>
      obtain ⟨i, -, there⟩ := Option.bind_eq_some_iff.mp found
      exact avoids_getElem? h there
  | map _ values => exact avoids_lookup? values found
  | routine name _ params =>
      rw [Value.part?.eq_def] at found
      dsimp only at found
      split at found
      · cases found
        exact .str name
      · cases found
        refine .list fun v mem => ?_
        obtain ⟨param, -, rfl⟩ := List.mem_map.mp mem
        exact .str _
      · cases found
  | loop index length before behind =>
      rw [Value.part?.eq_def] at found
      dsimp only at found
      split at found
      · exact avoids_loopAttribute? before behind found
      · cases found

theorem Avoids.part (h : value.Avoids hidden) : Returns (Avoids hidden) (value.part key) := by
  rw [Value.part]
  split
  · rename_i found
    exact .ok (h.part? found)
  · split
    · exact .error
    · exact .ok avoids_missing

theorem mem_of_mem_every {α : Type} {step skip : Nat} {x : α} {xs : List α}
    (mem : x ∈ every step skip xs) : x ∈ xs := by
  induction xs generalizing skip with
  | nil => simp [every] at mem
  | cons y rest ih =>
      cases skip with
      | zero => exact List.mem_cons.mpr ((List.mem_cons.mp mem).imp_right ih)
      | succ skip => exact List.mem_cons_of_mem y (ih mem)

theorem mem_of_mem_sliceItems {α : Type} {start stop : Option Int} {step : Int} {x : α}
    {xs : List α} (mem : x ∈ sliceItems xs start stop step) : x ∈ xs := by
  rw [sliceItems] at mem
  split at mem
  · exact List.mem_of_mem_take (List.mem_of_mem_drop (mem_of_mem_every mem))
  · exact List.mem_of_mem_take (List.mem_of_mem_drop (List.mem_reverse.mp (mem_of_mem_every mem)))

theorem Avoids.slice {start stop step : Value} (h : value.Avoids hidden) :
    Returns (Avoids hidden) (value.slice start stop step) := by
  rw [Value.slice]
  refine .seq fun start => .seq fun stop => .seq fun step => ?_
  dsimp only
  split
  · exact .error
  · cases h with
    | undefined | none => exact .ok (.list (List.forall_mem_nil _))
    | str s => exact .ok (.str _)
    | list h | series h => exact .ok (.series fun v mem => h v (mem_of_mem_sliceItems mem))
    | bool | int | float | map | function | routine | loop => exact .error

theorem Avoids.items? (h : value.Avoids hidden) (found : value.items? = some items) :
    AllAvoid hidden items := by
  cases h with
  | list h | series h =>
      cases found
      exact h
  | map keys =>
      cases found
      exact List.forall_mem_map.mpr keys
  | str s =>
      cases found
      exact avoids_characters
  | none | undefined =>
      cases found
      exact List.forall_mem_nil _
  | bool | int | float | function | routine | loop => cases found

theorem Avoids.visited (h : value.Avoids hidden) : Returns (AllAvoid hidden) value.visited := by
  rw [Value.visited.eq_def]
  split
  · exact .error
  · split
    · rename_i found
      exact .ok (h.items? found)
    · exact .error

theorem avoids_insertEntry (keys : ∀ e ∈ entries, e.1.Avoids hidden)
    (values : ∀ e ∈ entries, e.2.Avoids hidden) (hkey : key.Avoids hidden)
    (hvalue : value.Avoids hidden) :
    (∀ e ∈ insertEntry entries key value, e.1.Avoids hidden) ∧
      ∀ e ∈ insertEntry entries key value, e.2.Avoids hidden := by
  rw [insertEntry]
  split
  · simp only [List.forall_mem_map]
    refine ⟨fun e mem => ?_, fun e mem => ?_⟩
    · split
      · exact keys e mem
      · exact keys e mem
    · split
      · exact hvalue
      · exact values e mem
  · simp only [List.forall_mem_append, List.forall_mem_singleton]
    exact ⟨⟨keys, hkey⟩, values, hvalue⟩

end Value

end Parts

end ClientGen.Template
