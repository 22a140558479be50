import ClientGen.Proofs.Target.Emission
import ClientGen.Proofs.Template.Requests

/-! # Setting up targets

The set of templates of a built-in target starts with the shared functions. Functions and values are
bound then, and the templates of the client and the types are stored, by one request after the other
and none after one that is refused. Any engine can be asked for that; the interpreter comes to the
environments of the targets.
-/

namespace ClientGen.Target

open Template

/-- The set after requests, or the first error that one of them is answered with. -/
def setUp (E : Engine) (env : E.Env) : List (Request E) → Except (GenerationError E.Error) E.Env
  | [] => .ok env
  | request :: rest =>
    match request.answer env with
    | .refused error => .error error
    | .done | .text _ | .file _ => setUp E (request.after env) rest

def Dart.requests (E : Engine) : List (Request E) := [
  .helper "dartType" Dart.typeName,
  .helper "dartClassName" Naming.upperCamel,
  .helper "dartMethodName" Dart.identifier,
  .helper "dartIdent" Dart.identifier,
  .helper "dartParamName" Dart.paramName,
  .fieldHelper "dartFieldType" Dart.fieldType,
  .literals .dart,
  .add Dart.language clientName Dart.clientTemplate,
  .add Dart.language typesName Dart.typesTemplate]

def Python.requests (E : Engine) : List (Request E) := [
  .helper "pyType" Python.typeName,
  .helper "pyClassName" Naming.upperCamel,
  .helper "pyMethodName" Python.identifier,
  .helper "pyIdent" Python.identifier,
  .helper "pyDocstring" Python.docstring,
  .fieldHelper "pyFieldType" Python.fieldType,
  .add Python.language clientName Python.clientTemplate,
  .add Python.language typesName Python.typesTemplate]

def Rust.requests (E : Engine) : List (Request E) := [
  .helper "rustType" Rust.typeName,
  .helper "rustClassName" Naming.upperCamel,
  .helper "rustMethodName" Rust.identifier,
  .helper "rustFieldName" Rust.identifier,
  .fieldHelper "rustFieldType" Rust.fieldType,
  .literals .rust,
  .add Rust.language clientName Rust.clientTemplate,
  .add Rust.language typesName Rust.typesTemplate]

def Go.requests (E : Engine) (sdk : Sdk) : List (Request E) := [
  .helper "goType" Go.typeName,
  .helper "goExportedName" Naming.upperCamel,
  .helper "goMethodName" Naming.upperCamel,
  .helper "goParamName" Go.paramName,
  .fieldHelper "goFieldType" Go.fieldType,
  .constant "goPackage" (E.ofJson (.str sdk.packageName)),
  .add Go.language clientName Go.clientTemplate,
  .add Go.language typesName Go.typesTemplate]

/-- What the target of a language asks for. -/
def requests (E : Engine) (sdk : Sdk) : (language : String) → List (Request E)
  | "dart" => Dart.requests E
  | "python" => Python.requests E
  | "rust" => Rust.requests E
  | "go" => Go.requests E sdk
  | _ => []

/-- What the target of a language adds to the shared names, or binds anew. -/
def addedNames : (language : String) → List String
  | "dart" => ["literal", "dartFieldType", "dartParamName", "dartIdent", "dartMethodName",
      "dartClassName", "dartType"]
  | "python" => ["pyFieldType", "pyDocstring", "pyIdent", "pyMethodName", "pyClassName", "pyType"]
  | "rust" => ["literal", "rustFieldType", "rustFieldName", "rustMethodName", "rustClassName",
      "rustType"]
  | "go" => ["goPackage", "goFieldType", "goParamName", "goMethodName", "goExportedName", "goType"]
  | _ => []

section Requests

variable {E : Engine} {env set : E.Env} {asked : List (Request E)} {language : String} {sdk : Sdk}

theorem setUp_eq_after (done : setUp E env asked = .ok set) : set = E.after env asked := by
  induction asked generalizing env with
  | nil =>
      cases done
      rfl
  | cons request rest ih =>
      rw [setUp] at done
      split at done
      · cases done
      all_goals exact ih done

/-- The name under which a template is to be stored. -/
def storedName? : Request E → Option String
  | .add _ name _ => some name
  | _ => none

theorem storedName?_of_body? {request : Request E} {entry : String × E.Body}
    (stored : request.body? = some entry) : storedName? request = some entry.1 := by
  cases request with
  | add language name source =>
      rw [Request.body?, Option.map_eq_some_iff] at stored
      obtain ⟨body, -, rfl⟩ := stored
      rfl
  | helper | fieldHelper | constant | literals | render | renderText | renderFile => cases stored

/-- What is bound is what a target adds to the names, and what is stored are the templates of the
    client and the types. -/
theorem requests_names (E : Engine) (sdk : Sdk) (known : language ∈ builtinLanguages) :
    ((requests E sdk language).filterMap Request.binding?).reverse.map (·.1)
        = addedNames language ∧
      (requests E sdk language).filterMap storedName? = [clientName, typesName] := by
  simp only [builtinLanguages, List.mem_cons, List.not_mem_nil, or_false] at known
  obtain rfl | rfl | rfl | rfl := known
  all_goals exact ⟨rfl, rfl⟩

theorem lastBinding_requests {name : String} (known : language ∈ builtinLanguages)
    (free : name ∉ addedNames language) : lastBinding name (requests E sdk language) = none := by
  rw [← (requests_names E sdk known).1] at free
  exact lookup_eq_none free

theorem lastBody_requests {name : String} (known : language ∈ builtinLanguages)
    (free : name ∉ [typesName, clientName]) : lastBody name (requests E sdk language) = none := by
  refine lookup_eq_none fun mem => free ?_
  obtain ⟨entry, stored, rfl⟩ := List.mem_map.mp mem
  obtain ⟨request, asked, body⟩ := List.mem_filterMap.mp (List.mem_reverse.mp stored)
  have named := List.mem_filterMap.mpr ⟨request, asked, storedName?_of_body? body⟩
  rw [(requests_names E sdk known).2] at named
  exact (List.Perm.swap _ _ _).mem_iff.mp named

end Requests

section Running

open Environment

variable {sdk : Sdk}

/-- What a target does with its environment when it is asked. -/
def performed (env : Environment) : Request engine → Except GenerationError Environment
  | .add language name source => addTemplate language name source env
  | .helper name f => .ok (env.bindHelper name f)
  | .fieldHelper name f => .ok (env.bindFieldHelper name f)
  | .constant name data => .ok (env.bindValue name data.1)
  | .literals quoting => .ok (env.bindLiteral quoting)
  | .render .. | .renderText .. | .renderFile .. => .ok env

theorem performed_eq (env : PlainEnvironment) (request : Request engine) :
    performed env.1 request = match request.answer env with
      | .refused error => .error error
      | .done | .text _ | .file _ => .ok (request.after env).1 := by
  cases request with
  | add language name source =>
      rw [performed, addTemplate_eq, Request.answer, Request.after]
      cases (engine.addTemplate language name source env).2 <;> rfl
  | literals quoting =>
      rw [performed, ← bindLiteral_val]
      rfl
  | helper | fieldHelper | constant | render | renderText | renderFile => rfl

theorem setUp_val (env : PlainEnvironment) (asked : List (Request engine)) :
    (setUp engine env asked).map (·.1) = asked.foldlM performed env.1 := by
  induction asked generalizing env with
  | nil => rfl
  | cons request rest ih =>
      rw [setUp, List.foldlM_cons, performed_eq]
      cases request.answer env with
      | refused error => rfl
      | done | text | file => exact ih (request.after env)

/-- Behind the bindings, the templates of the client and the types are stored. -/
theorem performed_adds {client types : String} (clientReading : Readable client)
    (typesReading : Readable types) (language : String) (env : Environment) :
    List.foldlM performed env
        [.add language clientName client, .add language typesName types]
      = .ok (withTemplates env clientReading.stmts typesReading.stmts) := by
  have stored : addTemplates language client types env = .ok _ :=
    addTemplates_eq clientReading typesReading
  rw [← stored, addTemplates]
  simp only [List.foldlM_cons, List.foldlM_nil, bind_pure, performed]

theorem Dart.performed_requests : (Dart.requests engine).foldlM performed standard
    = .ok Dart.environment := by
  rw [Dart.requests]
  repeat rw [List.foldlM_cons, performed, ok_bind]
  exact performed_adds Dart.clientReading Dart.typesReading _ _

theorem Python.performed_requests : (Python.requests engine).foldlM performed standard
    = .ok Python.environment := by
  rw [Python.requests]
  repeat rw [List.foldlM_cons, performed, ok_bind]
  exact performed_adds Python.clientReading Python.typesReading _ _

theorem Rust.performed_requests : (Rust.requests engine).foldlM performed standard
    = .ok Rust.environment := by
  rw [Rust.requests]
  repeat rw [List.foldlM_cons, performed, ok_bind]
  exact performed_adds Rust.clientReading Rust.typesReading _ _

theorem Go.performed_requests : (Go.requests engine sdk).foldlM performed standard
    = .ok (Go.environment sdk) := by
  rw [Go.requests]
  repeat rw [List.foldlM_cons, performed, ok_bind]
  exact performed_adds Go.clientReading Go.typesReading _ _

end Running

end ClientGen.Target
