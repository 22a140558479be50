import ClientGen.Template.Arithmetic
import ClientGen.Template.Filters

/-! # Evaluating template trees

Statements are run from first to last in a stack of scopes and write text. Names are looked
up in the innermost scope first. An assignment changes the innermost scope only; loops,
`with` statements and calls open one. A loop has one scope for all its rounds. An error is
placed at the line of the part that fails.
-/

namespace ClientGen.Template

/-- The names of one scope. -/
abbrev Frame := List (String × Value)

/-- Bind a name, in its old place if it is bound. -/
def Frame.bind (frame : Frame) (name : String) (value : Value) : Frame :=
  match frame with
  | [] => [(name, value)]
  | (other, old) :: rest =>
    if name = other then (name, value) :: rest else (other, old) :: Frame.bind rest name value

/-- Scopes, the innermost one first. -/
abbrev Scope := List Frame

namespace Scope

def lookup? (scope : Scope) (name : String) : Option Value :=
  scope.findSome? (List.lookup name)

/-- Bind a name in the innermost scope. -/
def bind (scope : Scope) (name : String) (value : Value) : Scope :=
  match scope with
  | [] => [[(name, value)]]
  | frame :: outer => frame.bind name value :: outer

end Scope

/-- Parameters of a routine, with defaults for some. -/
abbrev Params := List (String × Option Expr)

/-- What an evaluation refers to outside of its template: names, functions, and ways to run
    other statements. -/
structure Setting where
  /-- Name of the template that runs. -/
  template : String
  constant? : String → Option Value
  function? : String → Option (Passed → Except Error Value)
  /-- Run a routine in the scopes that enclose it. -/
  routine : Scope → Params → List Stmt → Passed → Except Error Value
  /-- Run another template in the same scopes. -/
  embed : Scope → Value → Bool → Except Error (String × Scope)

namespace Setting

/-- Place an error that has no place yet. -/
def place (s : Setting) (line : Nat) (result : Except Error α) : Except Error α :=
  result.mapError (·.located s.template line)

def lookup? (s : Setting) (scope : Scope) (name : String) : Option Value :=
  match scope.lookup? name with
  | some value => some value
  | none => s.constant? name

/-- Call a value. -/
def callValue (s : Setting) (scope : Scope) (callee : Value) (passed : Passed) :
    Except Error Value :=
  match callee with
  | .function name =>
    match s.function? name with
    | some f => f passed
    | none => .error { kind := .unknownFunction, detail := some (name ++ " is unknown") }
  | .routine _ params body depth =>
    s.routine (scope.drop (scope.length - depth)) params body passed
  | .loop .. => .error (.invalid "cannot recurse outside of recursive loop")
  | callee => .error (.invalid ("value of type " ++ callee.kind ++ " is not callable"))

/-- Call what a name is bound to. -/
def callName (s : Setting) (scope : Scope) (name : String) (passed : Passed) :
    Except Error Value :=
  match s.lookup? scope name with
  | some callee => s.callValue scope callee passed
  | none => .error { kind := .unknownFunction, detail := some (name ++ " is unknown") }

/-- Call a part of a value. -/
def callMethod (s : Setting) (scope : Scope) (subject : Value) (name : String)
    (passed : Passed) : Except Error Value :=
  match subject, name with
  | .loop index _ _ _ _, "cycle" =>
    .ok ((passed.values[index % passed.values.length]?).getD .missing)
  | .loop _ _ _ _ compared, "changed" =>
    .ok (.bool !(compared.any (Value.sameItems passed.values)))
  | .loop .., _ => unknown "loop object"
  | .map entries, name =>
    match Value.lookup? entries (.str name) with
    | some callee => s.callValue scope callee passed
    | none => unknown subject.kind
  | _, _ => unknown subject.kind
where
  unknown (owner : String) : Except Error Value :=
    .error { kind := .unknownMethod,
             detail := some (owner ++ " has no method named " ++ name) }

end Setting

def Literal.value : Literal → Value
  | .none => .none
  | .bool b => .bool b
  | .int n => .int n
  | .float x => .float x
  | .str s => .str s

/-- Evaluated arguments, those with a name apart. -/
def Passed.ofArgs (args : List (Option String × Value)) : Passed :=
  ⟨args.filterMap fun (name, value) => if name.isNone then some value else none,
    args.filterMap fun (name, value) => name.map (·, value)⟩

mutual

/-- The value of an expression. -/
def Expr.eval (s : Setting) (scope : Scope) : Expr → Except Error Value
  | .literal value => .ok value.value
  | .name id => .ok ((s.lookup? scope id).getD .missing)
  | .list items => do return .list (← evalItems s scope items)
  | .map entries => do
    let entries ← evalEntries s scope entries
    return .map (entries.foldl (fun done (key, value) => Value.insertEntry done key value) [])
  | .negate line operand => do s.place line (← operand.eval s scope).negate
  | .not line operand => do
    return .bool !(← s.place line (← operand.eval s scope).holds)
  | .both line left right => do
    let value ← left.eval s scope
    if ← s.place line value.holds then right.eval s scope else return value
  | .either line left right => do
    let value ← left.eval s scope
    if ← s.place line value.holds then return value else right.eval s scope
  | .binary line operator left right => do
    let a ← left.eval s scope
    let b ← right.eval s scope
    s.place line (operator.apply a b)
  | .choice line test yes no => do
    if ← s.place line (← test.eval s scope).holds then yes.eval s scope
    else evalOr s scope (.undefined true) no
  | .attribute line subject name => do
    s.place line ((← subject.eval s scope).part (.str name))
  | .item line subject key => do
    let value ← subject.eval s scope
    let key ← key.eval s scope
    s.place line (value.part key)
  | .slice line subject start stop step => do
    let value ← subject.eval s scope
    let start ← evalOr s scope .none start
    let stop ← evalOr s scope .none stop
    let step ← evalOr s scope .none step
    s.place line (value.slice start stop step)
  | .call line function args => do
    let passed := Passed.ofArgs (← evalArgs s scope args)
    s.place line (s.callName scope function passed)
  | .callMethod line subject name args => do
    let value ← subject.eval s scope
    let passed := Passed.ofArgs (← evalArgs s scope args)
    s.place line (s.callMethod scope value name passed)
  | .callValue line subject args => do
    let value ← subject.eval s scope
    let passed := Passed.ofArgs (← evalArgs s scope args)
    s.place line (s.callValue scope value passed)
  | .filter line subject name args => do
    let value ← subject.eval s scope
    let passed := Passed.ofArgs ((none, value) :: (← evalArgs s scope args))
    s.place line (Filters.apply name passed)
  | .test line subject name args => do
    let value ← subject.eval s scope
    let passed := Passed.ofArgs ((none, value) :: (← evalArgs s scope args))
    return .bool (← s.place line (Tests.apply name passed))

def evalItems (s : Setting) (scope : Scope) : List Expr → Except Error (List Value)
  | [] => .ok []
  | item :: rest => do
    let value ← item.eval s scope
    return value :: (← evalItems s scope rest)

def evalEntries (s : Setting) (scope : Scope) :
    List (Expr × Expr) → Except Error (List (Value × Value))
  | [] => .ok []
  | (key, value) :: rest => do
    let key ← key.eval s scope
    let value ← value.eval s scope
    return (key, value) :: (← evalEntries s scope rest)

def evalArgs (s : Setting) (scope : Scope) :
    List (Option String × Expr) → Except Error (List (Option String × Value))
  | [] => .ok []
  | (name, value) :: rest => do
    let value ← value.eval s scope
    return (name, value) :: (← evalArgs s scope rest)

/-- The value of an expression, or another value if there is none. -/
def evalOr (s : Setting) (scope : Scope) (default : Value) : Option Expr → Except Error Value
  | none => .ok default
  | some e => e.eval s scope

end

/-- The values that an expression asks its loop to compare, if its first operands do so. -/
def Expr.compared? : Expr → Option Args
  | .callMethod _ (.name "loop") "changed" args => some args
  | .negate _ e | .not _ e | .both _ e _ | .either _ e _ | .binary _ _ e _ | .choice _ e _ _ =>
    e.compared?
  | .filter _ e _ _ | .test _ e _ _ => e.compared?
  | _ => none

/-- Let the innermost loop remember the values that it has been asked to compare. -/
def Scope.remember (values : List Value) : Scope → Scope
  | [] => []
  | frame :: outer =>
    match frame.lookup "loop" with
    | some (.loop index length previous next _) =>
      frame.bind "loop" (.loop index length previous next (some values)) :: outer
    | _ => frame :: remember values outer

/-- The scopes after an expression. -/
def scopeAfter (s : Setting) (scope : Scope) (e : Expr) : Except Error Scope :=
  match e.compared? with
  | none => .ok scope
  | some args => do
    return Scope.remember (Passed.ofArgs (← evalArgs s scope args)).values scope

/-- The items of a value that is taken apart. -/
def unpack (count : Nat) (value : Value) : Except Error (List Value) :=
  match value with
  | .list items | .series items => ofLength items
  | .map entries => ofLength (entries.map (·.1))
  | _ => .error { kind := .cannotUnpack, detail := some "value is not iterable" }
where
  ofLength (items : List Value) : Except Error (List Value) :=
    if items.length = count then .ok items
    else
      .error { kind := .cannotUnpack,
               detail := some ("sequence of wrong length (expected " ++ toString count
                 ++ ", got " ++ toString items.length ++ ")") }

mutual

/-- Assign a value. A list of targets takes apart a list of just as many items. -/
def Target.assign (s : Setting) (line : Nat) (scope : Scope) (value : Value) :
    Target → Except Error Scope
  | .name id => .ok (scope.bind id value)
  | .attribute subject => do
    let owner ← match subject with
      | .attribute _ owner _ => owner.eval s scope
      | subject => subject.eval s scope
    s.place line (.error (.invalid ("can only assign to namespaces, not " ++ owner.kind)))
  | .list targets => do
    let items ← s.place line (unpack targets.length value)
    assignItems s line scope items targets

def assignItems (s : Setting) (line : Nat) (scope : Scope) (items : List Value) :
    List Target → Except Error Scope
  | [] => .ok scope
  | target :: rest => do
    let scope ← Target.assign s line scope (items.headD .missing) target
    assignItems s line scope items.tail rest

end

/-- Apply filters to a text, from first to last. -/
def applyFilters (s : Setting) (scope : Scope) (filters : List TextFilter) (value : Value) :
    Except Error Value :=
  filters.foldlM
    (fun value filter => do
      let passed := Passed.ofArgs ((none, value) :: (← evalArgs s scope filter.args))
      s.place filter.line (Filters.apply filter.name passed))
    value

/-- The text that a printed value leaves. -/
def printed (value : Value) : Except Error String :=
  match value with
  | .undefined false => .error .undefinedValue
  | value => .ok value.text

/-- The items of a loop of `length` rounds from round `index` on, each with what the loop
    then knows about itself. -/
def rounds (length index : Nat) (previous : Value) : List Value → List (Value × Value)
  | [] => []
  | item :: rest =>
    (item, .loop index length previous (rest.headD .missing) none)
      :: rounds length (index + 1) item rest

/-- What a loop knows about itself, with what it remembers from the round before. -/
def resumed (frame : Frame) (loop : Value) : Value :=
  match loop, frame.lookup "loop" with
  | .loop index length previous next _, some (.loop _ _ _ _ compared) =>
    .loop index length previous next compared
  | loop, _ => loop

/-- The items that satisfy the condition of a loop. -/
def keepItems (s : Setting) (line : Nat) (scope : Scope) (target : Target)
    (keep : Option (Nat × Expr)) (items : List Value) : Except Error (List Value) :=
  match keep with
  | none => .ok items
  | some (keepLine, condition) =>
    items.filterM fun item => do
      let inner ← target.assign s line ([] :: scope) item
      s.place keepLine (← condition.eval s inner).holds

/-- Assign from first to last, each value with the earlier ones in scope. -/
def assignAll (s : Setting) (line : Nat) (scope : Scope) :
    List (Target × Expr) → Except Error Scope
  | [] => .ok scope
  | (target, value) :: rest => do
    let scope ← target.assign s line scope (← value.eval s scope)
    assignAll s line scope rest

mutual

/-- Run a statement: the text it writes, and the scopes after it. -/
def Stmt.run (s : Setting) (scope : Scope) : Stmt → Except Error (String × Scope)
  | .text text => .ok (text, scope)
  | .print line value => do
    let text ← s.place line (printed (← value.eval s scope))
    return (text, ← scopeAfter s scope value)
  | .branch line test yes no => do
    let holds ← s.place line (← test.eval s scope).holds
    let scope ← scopeAfter s scope test
    if holds then runAll s scope yes else runAll s scope no
  | .each line target source keep body otherwise => do
    let items ← s.place line (← source.eval s scope).visited
    let items ← keepItems s line scope target keep items
    if items.isEmpty then runAll s scope otherwise
    else
      let (text, _) ← (rounds items.length 0 .missing items).foldlM
        (fun ((text, frame) : String × Frame) (item, loop) => do
          let loop := resumed frame loop
          let inner ← target.assign s line (frame.bind "loop" loop :: scope) item
          let (added, inner) ← runAll s inner body
          return (text ++ added, inner.headD []))
        ("", [])
      return (text, scope)
  | .assign line target value => do
    let scope ← target.assign s line scope (← value.eval s scope)
    return ("", scope)
  | .capture line target filters body => do
    let (text, scope) ← runAll s scope body
    let value ← applyFilters s scope filters (.str text)
    return ("", ← target.assign s line scope value)
  | .scope line bindings body => do
    let inner ← assignAll s line ([] :: scope) bindings
    let (text, _) ← runAll s inner body
    return (text, scope)
  | .filtered filters body => do
    let (text, scope) ← runAll s scope body
    let value ← applyFilters s scope filters (.str text)
    return (value.text, scope)
  | .define name params body =>
    .ok ("", scope.bind name (.routine name params body scope.length))
  | .embed line source optional => do
    let value ← source.eval s scope
    s.place line (s.embed scope value optional)

/-- Run statements from first to last. -/
def runAll (s : Setting) (scope : Scope) : List Stmt → Except Error (String × Scope)
  | [] => .ok ("", scope)
  | stmt :: rest => do
    let (text, scope) ← stmt.run s scope
    let (more, scope) ← runAll s scope rest
    return (text ++ more, scope)

end

/-- Values for the parameters of a routine. A default is evaluated with the parameters behind
    its own in scope. -/
def bindParams (s : Setting) (scope : Scope) (passed : Passed) :
    Nat → Params → Except Error Frame
  | _, [] => .ok []
  | index, (name, default) :: rest => do
    let frame ← bindParams s scope passed (index + 1) rest
    let given ← match passed.values[index]?, passed.named.lookup name with
      | some _, some _ =>
        .error { kind := .tooManyArguments,
                 detail := some ("duplicate argument \x60" ++ name ++ "\x60") }
      | some value, none => pure value
      | none, some value => pure value
      | none, none => pure Value.missing
    let value ←
      if given.isUndefined then evalOr s (frame :: scope) given default else pure given
    return frame.bind name value

/-- Run the body of a routine; its value is the text it writes. -/
def callRoutine (s : Setting) (scope : Scope) (params : Params) (body : List Stmt)
    (passed : Passed) : Except Error Value := do
  if params.length < passed.values.length then .error { kind := .tooManyArguments }
  else
    match passed.named.find? fun (name, _) => (params.lookup name).isNone with
    | some (name, _) =>
      .error { kind := .tooManyArguments,
               detail := some ("unknown keyword argument \x60" ++ name ++ "\x60") }
    | none =>
      let frame ← bindParams s scope passed 0 params
      let (text, _) ← runAll s (frame :: scope) body
      return .str text

end ClientGen.Template
