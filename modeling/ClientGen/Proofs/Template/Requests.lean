import ClientGen.Proofs.Template.Interpreter

/-! # Requests to a set of templates

A set of templates is filled and used by one request after the other, whatever the engine is that
reads and runs them. A template that cannot be read leaves no trace. What is stored or bound last
under a name is what counts, and it counts when a template is rendered: a binding reaches the
templates that are already there.
-/

namespace ClientGen.Template

variable {E : Engine}

/-- What can be asked of a set of templates. -/
inductive Request (E : Engine) where
  | add (language name source : String)
  | helper (name : String) (f : String → String)
  | fieldHelper (name : String) (f : String → Bool → Bool → String)
  | constant (name : String) (data : E.Data)
  | literals (quoting : Text.Quoting)
  | render (name : String) (data : E.Data)
  | renderText (source : String) (data : E.Data)
  | renderFile (language : String) (role : FileRole) (path name : String) (data : E.Data)

/-- What is answered. -/
inductive Answer (E : Engine) where
  | done
  /-- A template cannot be read. -/
  | refused (error : GenerationError E.Error)
  | text (result : Except E.Error String)
  | file (result : Except (GenerationError E.Error) String)

def Answer.ofAdd : Except (GenerationError E.Error) Unit → Answer E
  | .ok () => .done
  | .error error => .refused error

namespace Request

/-- The set after a request. -/
def after (env : E.Env) : Request E → E.Env
  | .add language name source => (E.addTemplate language name source env).1
  | .helper name f => E.bindHelper env name f
  | .fieldHelper name f => E.bindFieldHelper env name f
  | .constant name data => E.bindConstant env name data
  | .literals quoting => E.bindLiteral env quoting
  | .render .. | .renderText .. | .renderFile .. => env

def answer (env : E.Env) : Request E → Answer E
  | .add language name source => .ofAdd (E.addTemplate language name source env).2
  | .helper .. | .fieldHelper .. | .constant .. | .literals .. => .done
  | .render name data => .text (E.render env name data)
  | .renderText source data => .text (E.renderText env source data)
  | .renderFile language role path name data => .file (E.renderFile env language role path name data)

/-- The template that a request stores. -/
def body? : Request E → Option (String × E.Body)
  | .add _ name source => (E.read name source).toOption.map fun body => (name, body)
  | .helper .. | .fieldHelper .. | .constant .. | .literals .. => none
  | .render .. | .renderText .. | .renderFile .. => none

/-- The binding that a request makes. -/
def binding? : Request E → Option (String × E.Binding)
  | .helper name f => some (name, E.onText f)
  | .fieldHelper name f => some (name, E.onField f)
  | .constant name data => some (name, E.constant data)
  | .literals quoting => some ("literal", E.onArgument (E.literal quoting))
  | .add .. | .render .. | .renderText .. | .renderFile .. => none

end Request

namespace Engine

/-- The set after a run of requests. -/
def after (E : Engine) (env : E.Env) (requests : List (Request E)) : E.Env :=
  requests.foldl Request.after env

/-- A run of requests, each with its answer. -/
def exchange (E : Engine) (env : E.Env) : List (Request E) → List (Request E × Answer E)
  | [] => []
  | request :: rest => (request, request.answer env) :: E.exchange (request.after env) rest

end Engine

/-- The last template that requests store under a name. -/
def lastBody (name : String) (requests : List (Request E)) : Option E.Body :=
  (requests.filterMap Request.body?).reverse.lookup name

/-- What requests bind a name to last. -/
def lastBinding (name : String) (requests : List (Request E)) : Option E.Binding :=
  (requests.filterMap Request.binding?).reverse.lookup name

/-- What is left of a run without some of the templates that were refused. -/
inductive Leaves : List (Request E × Answer E) → List (Request E × Answer E) → Prop
  | nil : Leaves [] []
  | kept (entry : Request E × Answer E) {entries left : List (Request E × Answer E)} :
      Leaves entries left → Leaves (entry :: entries) (entry :: left)
  | dropped (request : Request E) (error : GenerationError E.Error)
      {entries left : List (Request E × Answer E)} :
      Leaves entries left → Leaves ((request, .refused error) :: entries) left

/-- The requests that bind names, and then all others. -/
def bindingsFirst (requests : List (Request E)) : List (Request E) :=
  requests.filter (·.binding?.isSome) ++ requests.filter (!·.binding?.isSome)

variable {env other : E.Env} {request : Request E} {requests : List (Request E)} {name : String}

namespace Engine.Stores

variable (stores : E.Stores)
include stores

theorem addTemplate_of_ok {language source : String} {body : E.Body}
    (read : E.read name source = .ok body) (env : E.Env) :
    E.addTemplate language name source env = ((E.add env name source).1, .ok ()) := by
  show (_, Except.mapError _ (E.add env name source).2) = _
  rw [stores.add_of_ok env read]
  rfl

theorem addTemplate_of_error {language source : String} {error : E.Error}
    (unread : E.read name source = .error error) (env : E.Env) :
    E.addTemplate language name source env = (env, .error (.badTemplate language name error)) := by
  rw [addTemplate, stores.add_of_error env unread]
  rfl

theorem template?_after (env : E.Env) (request : Request E) (name : String) :
    E.template? (request.after env) name
      = (request.body?.toList.lookup name).or (E.template? env name) := by
  cases request with
  | add language other source =>
      rw [Request.after, Request.body?]
      cases read : E.read other source with
      | error error =>
          rw [stores.addTemplate_of_error read]
          rfl
      | ok body =>
          rw [stores.addTemplate_of_ok read, stores.template?_add env name read]
          show _ = (List.lookup name [(other, body)]).or _
          rw [lookup_cons_eq]
          split <;> rfl
  | helper other f => exact stores.template?_bind env other (E.onText f) name
  | fieldHelper other f => exact stores.template?_bind env other (E.onField f) name
  | constant other data => exact stores.template?_bind env other (E.constant data) name
  | literals quoting => exact stores.template?_bind env "literal" _ name
  | render | renderText | renderFile => rfl

theorem binding?_after (env : E.Env) (request : Request E) (name : String) :
    E.binding? (request.after env) name
      = (request.binding?.toList.lookup name).or (E.binding? env name) := by
  have bound (other : String) (binding : E.Binding) : E.binding? (E.bind env other binding) name
      = ([(other, binding)].lookup name).or (E.binding? env name) := by
    rw [stores.binding?_bind, lookup_cons_eq]
    split <;> rfl
  cases request with
  | add language other source =>
      rw [Request.after]
      cases read : E.read other source with
      | error error =>
          rw [stores.addTemplate_of_error read]
          rfl
      | ok body =>
          rw [stores.addTemplate_of_ok read, stores.binding?_add env name read]
          rfl
  | helper | fieldHelper | constant | literals => exact bound _ _
  | render | renderText | renderFile => rfl

theorem template?_standard (name : String) : E.template? E.standard name = none := by
  rw [standard, bindLiteral, stores.template?_bind, stores.template?_bind]
  simp only [bindHelper, stores.template?_bind]
  exact stores.template?_fresh name

theorem after_of_refused {error : GenerationError E.Error}
    (refused : request.answer env = .refused error) : request.after env = env := by
  cases request with
  | add language name source =>
      rw [Request.answer] at refused
      rw [Request.after]
      cases read : E.read name source with
      | ok body =>
          rw [stores.addTemplate_of_ok read] at refused
          cases refused
      | error error => rw [stores.addTemplate_of_error read]
  | helper | fieldHelper | constant | literals | render | renderText | renderFile => cases refused

omit stores in
/-- If every request changes what is found under a name to what it writes there itself, then of all
    that a run of requests writes there the last one counts. -/
theorem found_after {α : Type} {found : E.Env → String → Option α}
    {written? : Request E → Option (String × α)}
    (step : ∀ env request name, found (Request.after env request) name
      = ((written? request).toList.lookup name).or (found env name))
    (env : E.Env) (requests : List (Request E)) (name : String) :
    found (E.after env requests) name
      = ((requests.filterMap written?).reverse.lookup name).or (found env name) := by
  induction requests generalizing env with
  | nil => rfl
  | cons request rest ih =>
      have rest := ih (Request.after env request)
      rw [step, ← Option.or_assoc] at rest
      rw [after, List.foldl_cons, ← after, rest, List.filterMap_cons]
      cases written? request with
      | none => rw [Option.toList_none, List.lookup_nil, Option.or_none]
      | some entry =>
          rw [Option.toList_some]
          simp only [List.reverse_cons, List.lookup_append]

theorem template?_run (env : E.Env) (requests : List (Request E)) (name : String) :
    E.template? (E.after env requests) name
      = (lastBody name requests).or (E.template? env name) :=
  found_after stores.template?_after env requests name

theorem binding?_run (env : E.Env) (requests : List (Request E)) (name : String) :
    E.binding? (E.after env requests) name
      = (lastBinding name requests).or (E.binding? env name) :=
  found_after stores.binding?_after env requests name

/-- A template is rendered from what was stored last under its name, with all that is bound by
    then. -/
theorem render_run (env : E.Env) (requests : List (Request E)) (name : String) (data : E.Data) :
    E.render (E.after env requests) name data
      = ((lastBody name requests).or (E.template? env name)).elim (.error (E.notStored name))
          fun body => E.run (E.after env requests) name body data := by
  rw [render, stores.template?_run]
  cases (lastBody name requests).or (E.template? env name) <;> rfl

end Engine.Stores

namespace Engine

theorem exchange_append (env : E.Env) (requests further : List (Request E)) :
    E.exchange env (requests ++ further)
      = E.exchange env requests ++ E.exchange (E.after env requests) further := by
  induction requests generalizing env with
  | nil => rfl
  | cons request rest ih => rw [List.cons_append, exchange, ih, exchange, List.cons_append]; rfl

/-- Two sets store the same templates and bind the same names. -/
structure Alike (env other : E.Env) : Prop where
  template?_eq (name : String) : E.template? env name = E.template? other name
  binding?_eq (name : String) : E.binding? env name = E.binding? other name

namespace Alike

variable (stores : E.Stores)
include stores

theorem run_eq (alike : Alike env other) : E.run env = E.run other :=
  stores.run_congr alike.template?_eq alike.binding?_eq

theorem render_eq (alike : Alike env other) : E.render env = E.render other := by
  funext name data
  rw [render, render, alike.template?_eq, alike.run_eq stores]

theorem answer_eq (alike : Alike env other) (request : Request E) :
    request.answer env = request.answer other := by
  cases request with
  | add language name source =>
      rw [Request.answer, Request.answer]
      cases read : E.read name source with
      | ok body => rw [stores.addTemplate_of_ok read, stores.addTemplate_of_ok read]
      | error error => rw [stores.addTemplate_of_error read, stores.addTemplate_of_error read]
  | helper | fieldHelper | constant | literals => rfl
  | render => rw [Request.answer, Request.answer, alike.render_eq stores]
  | renderText =>
      rw [Request.answer, Request.answer, renderText, renderText, alike.run_eq stores]
  | renderFile =>
      rw [Request.answer, Request.answer, renderFile, renderFile, alike.render_eq stores]

theorem after (alike : Alike env other) (request : Request E) :
    Alike (request.after env) (request.after other) where
  template?_eq name := by rw [stores.template?_after, stores.template?_after, alike.template?_eq]
  binding?_eq name := by rw [stores.binding?_after, stores.binding?_after, alike.binding?_eq]

theorem exchange_eq (alike : Alike env other) (requests : List (Request E)) :
    E.exchange env requests = E.exchange other requests := by
  induction requests generalizing env other with
  | nil => rfl
  | cons request rest ih =>
      rw [exchange, exchange, alike.answer_eq stores, ih (alike.after stores request)]

end Alike

/-- What is left is answered as before, and comes to the same set. -/
theorem exchange_of_leaves (stores : E.Stores) {left : List (Request E × Answer E)}
    (leaves : Leaves (E.exchange env requests) left) :
    E.exchange env (left.map (·.1)) = left ∧
      E.after env (left.map (·.1)) = E.after env requests := by
  induction requests generalizing env left with
  | nil =>
      cases leaves
      exact ⟨rfl, rfl⟩
  | cons request rest ih =>
      rw [exchange] at leaves
      generalize answered : request.answer env = answer at leaves
      cases leaves with
      | kept _ inner =>
          obtain ⟨answers, same⟩ := ih inner
          rw [List.map_cons]
          exact ⟨by rw [exchange, answers, answered], same⟩
      | dropped _ _ inner =>
          rw [stores.after_of_refused answered] at inner
          obtain ⟨answers, same⟩ := ih inner
          refine ⟨answers, ?_⟩
          rw [same, after, after, List.foldl_cons, stores.after_of_refused answered]

theorem alike_after (stores : E.Stores) {others : List (Request E)}
    (bodies : ∀ name, lastBody name others = lastBody name requests)
    (bindings : ∀ name, lastBinding name others = lastBinding name requests) (env : E.Env) :
    Alike (E.after env others) (E.after env requests) where
  template?_eq name := by rw [stores.template?_run, stores.template?_run, bodies]
  binding?_eq name := by rw [stores.binding?_run, stores.binding?_run, bindings]

end Engine

theorem body?_or_binding? (request : Request E) :
    request.body? = none ∨ request.binding? = none := by
  cases request <;> first | exact .inl rfl | exact .inr rfl

theorem lastBody_bindingsFirst (name : String) (requests : List (Request E)) :
    lastBody name (bindingsFirst requests) = lastBody name requests := by
  have binding : (requests.filter (·.binding?.isSome)).filterMap Request.body? = [] := by
    refine List.filterMap_eq_nil_iff.mpr fun request mem => ?_
    refine (body?_or_binding? request).resolve_right fun free => ?_
    rw [List.mem_filter, free] at mem
    cases mem.2
  have others : (requests.filter (!·.binding?.isSome)).filterMap Request.body?
      = requests.filterMap Request.body? := by
    rw [List.filterMap_filter]
    refine List.filterMap_congr fun request _ => ?_
    obtain none | free := body?_or_binding? request
    · rw [none, ite_self]
    · rw [free]
      rfl
  rw [lastBody, bindingsFirst, List.filterMap_append, binding, others, List.nil_append, lastBody]

theorem lastBinding_bindingsFirst (name : String) (requests : List (Request E)) :
    lastBinding name (bindingsFirst requests) = lastBinding name requests := by
  have binding : (requests.filter (·.binding?.isSome)).filterMap Request.binding?
      = requests.filterMap Request.binding? := by
    rw [List.filterMap_filter]
    refine List.filterMap_congr fun request _ => ?_
    cases request.binding? <;> rfl
  have others : (requests.filter (!·.binding?.isSome)).filterMap Request.binding? = [] := by
    refine List.filterMap_eq_nil_iff.mpr fun request mem => ?_
    rw [List.mem_filter, Bool.not_eq_true', Option.isSome_eq_false_iff] at mem
    exact Option.isNone_iff_eq_none.mp mem.2
  rw [lastBinding, bindingsFirst, List.filterMap_append, binding, others, List.append_nil,
    lastBinding]

namespace Engine

/-- Templates that are refused can be left out of a run: all other answers and the set stay what
    they are. A template is rendered from what was stored last under its name, with what names were
    bound to last when it is rendered. Nothing else of a run matters later, so it makes no
    difference whether names are bound before a template is stored or after it. -/
theorem exchange_laws {E : Engine} (stores : E.Stores) (env : E.Env) (requests : List (Request E)) :
    (∀ further, E.exchange env (requests ++ further)
      = E.exchange env requests ++ E.exchange (E.after env requests) further) ∧
    (∀ left, Leaves (E.exchange env requests) left →
      E.exchange env (left.map (·.1)) = left ∧
        E.after env (left.map (·.1)) = E.after env requests) ∧
    (∀ name data, E.render (E.after env requests) name data
      = ((lastBody name requests).or (E.template? env name)).elim (.error (E.notStored name))
          fun body => E.run (E.after env requests) name body data) ∧
    (∀ name, E.binding? (E.after env requests) name
      = (lastBinding name requests).or (E.binding? env name)) ∧
    (∀ others, (∀ name, lastBody name others = lastBody name requests) →
      (∀ name, lastBinding name others = lastBinding name requests) →
      ∀ further, E.exchange (E.after env others) further
        = E.exchange (E.after env requests) further) ∧
    ∀ further, E.exchange (E.after env (bindingsFirst requests)) further
      = E.exchange (E.after env requests) further := by
  have same {others : List (Request E)}
      (bodies : ∀ name, lastBody name others = lastBody name requests)
      (bindings : ∀ name, lastBinding name others = lastBinding name requests) :=
    (alike_after stores bodies bindings env).exchange_eq stores
  exact ⟨exchange_append env requests, fun _ => exchange_of_leaves stores,
    stores.render_run env requests, stores.binding?_run env requests, fun _ => same,
    same (lastBody_bindingsFirst · requests) (lastBinding_bindingsFirst · requests)⟩

/-- A template that is stored between two bindings of the name that it shows, and one that cannot be
    read and is to take its place. -/
theorem exchange_laws_rebound :
    let E := Environment.engine
    let stored : Request E := .add "go" "t" "\x7b\x7b n \x7d\x7d"
    let broken : Request E := .add "go" "t" "\x7b\x7b"
    let old : Request E := .constant "n" (E.ofJson (.int 1))
    let new : Request E := .constant "n" (E.ofJson (.int 2))
    let shown : Request E := .render "t" (E.ofJson (.obj []))
    let left : List (Request E × Answer E) := [(old, .done), (stored, .done), (new, .done)]
    E.Stores ∧ Leaves (E.exchange E.standard [old, stored, broken, new]) left ∧
      E.exchange E.standard [old, stored, new] = left ∧
      (∀ name, lastBody name [new, stored] = lastBody name [old, stored, broken, new]) ∧
      (∀ name, lastBinding name [new, stored] = lastBinding name [old, stored, broken, new]) ∧
      E.exchange (E.after E.standard [old, stored, broken, new]) [shown]
        = [(shown, .text (.ok "2"))] := by
  intro E stored broken old new shown left
  have stores : E.Stores := Environment.engine_stores
  obtain ⟨error, failed⟩ : ∃ error, E.read "t" "\x7b\x7b" = .error error := by
    have unread : (Stmt.readAll "t" "\x7b\x7b").isOk = false := by decide +kernel
    cases read : Stmt.readAll "t" "\x7b\x7b" with
    | error error => exact ⟨error, read⟩
    | ok stmts => rw [read] at unread; cases unread
  obtain ⟨stmts, done⟩ : ∃ stmts, E.read "t" "\x7b\x7b n \x7d\x7d" = .ok stmts := by
    have known : (Stmt.readAll "t" "\x7b\x7b n \x7d\x7d").isOk = true := by decide +kernel
    cases read : Stmt.readAll "t" "\x7b\x7b n \x7d\x7d" with
    | error error => rw [read] at known; cases known
    | ok stmts => exact ⟨stmts, read⟩
  have answered (env : E.Env) : stored.answer env = .done := by
    rw [Request.answer, stores.addTemplate_of_ok done]
    rfl
  have refused (env : E.Env) : broken.answer env = .refused (.badTemplate "go" "t" error) := by
    rw [Request.answer, stores.addTemplate_of_error failed]
    rfl
  have unstored : broken.body? = none := by
    rw [Request.body?, failed]
    rfl
  have bodies (name : String) :
      lastBody name [new, stored] = lastBody name [old, stored, broken, new] := by
    simp only [lastBody, List.filterMap_cons, unstored]
    rfl
  have bindings (name : String) :
      lastBinding name [new, stored] = lastBinding name [old, stored, broken, new] := by
    show List.lookup name [("n", _)] = List.lookup name [("n", _), ("n", _)]
    rw [lookup_cons_eq, lookup_cons_eq, lookup_cons_eq]
    split <;> rfl
  obtain ⟨-, leaves, -, -, same, -⟩ := exchange_laws stores E.standard [old, stored, broken, new]
  have dropped : Leaves (E.exchange E.standard [old, stored, broken, new]) left := by
    simp only [exchange, answered, refused]
    exact .kept _ (.kept _ (.dropped _ _ (.kept _ .nil)))
  refine ⟨stores, dropped, (leaves left dropped).1, bodies, bindings, ?_⟩
  rw [← same [new, stored] bodies bindings]
  have rendered : E.render (E.after E.standard [new, stored]) "t" (E.ofJson (.obj [])) = .ok "2" := by
    rw [Environment.render_eq_render]
    decide +kernel
  rw [exchange, Request.answer, rendered, exchange]

end Engine

end ClientGen.Template
