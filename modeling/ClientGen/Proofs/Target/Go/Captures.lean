import ClientGen.Proofs.Target.Parameters
import Mathlib.Data.List.SplitBy

/-! # Names in Go methods

The body of a Go method declares variables and refers to names of its surroundings: the types of
the parameter map, the constant that stands for a missing result, and what the type of the result
is made of. A parameter is kept from the variables and from the keywords, but not from the names
of the surroundings, so it hides those that it shares its identifier with.
-/

namespace ClientGen.Target.Go

open Naming Template

/-- Whether a character can be part of a Go identifier. -/
def isNamePart (c : Char) : Bool :=
  c.isAlphanum || c == '_' || 128 ≤ c.toNat

/-- The runs of characters that are parts of identifiers, and the runs between them. -/
def runs (type : String) : List (List Char) :=
  type.toList.splitBy fun c d => isNamePart c == isNamePart d

/-- Whether a run is a name; a number and a keyword are none. -/
def isName (run : List Char) : Bool :=
  run.all isNamePart && !run.head?.any Char.isDigit && !keywords.contains (String.ofList run)

/-- Whether a run ends in a dot, behind which a name belongs to the package before the dot. -/
def selects (run : List Char) : Bool :=
  (Text.dropEndWhile Char.isWhitespace run).getLast? == some '.'

/-- Runs in fragments; `selected` tells whether the first one is behind a dot. -/
def runFragments (selected : Bool) : List (List Char) → List Fragment
  | [] => []
  | run :: rest =>
      (if isName run && !selected then .name (String.ofList run) else .code (String.ofList run))
        :: runFragments (selects run) rest

/-- A type in fragments: its names that are not selected from a package, and the code around
    them. -/
def typeFragments (type : String) : List Fragment :=
  runFragments false (runs type)

/-- The names that a type refers to. -/
def typeNames (type : String) : List String :=
  Fragment.declared (typeFragments type)

theorem source_runFragments {selected : Bool} {rest : List (List Char)} :
    Fragment.source (runFragments selected rest) = String.ofList rest.flatten := by
  induction rest generalizing selected with
  | nil => rfl
  | cons run rest ih =>
      rw [runFragments, List.flatten_cons, String.ofList_append]
      split
      · rw [Fragment.source_name, ih]
      · rw [Fragment.source_code, ih]

theorem source_typeFragments {type : String} : Fragment.source (typeFragments type) = type := by
  rw [typeFragments, source_runFragments, runs, List.flatten_splitBy, String.ofList_toList]

example : typeNames "map[string][]time.Time" = ["string", "time"] := by
  decide

/-- The call of a method in fragments. -/
def callFragments (key : String) : Option String → List Fragment
  | some type =>
      [.code "\tvar ", .name "result", .code " "] ++ typeFragments type
        ++ [.code "\n\t", .name "err", .code " := ", .name "c", .code ".rpc.Call(", .name "ctx",
          .code (", \"" ++ key ++ "\", "), .name "params", .code ", &", .name "result",
          .code ")\n\treturn ", .name "result", .code ", ", .name "err", .code "\n"]
  | none =>
      [.code "\treturn ", .name "c", .code ".rpc.Call(", .name "ctx",
        .code (", \"" ++ key ++ "\", "), .name "params", .code ", ", .name "nil", .code ")\n"]

/-- The body of a method in fragments: the names that it declares or refers to, apart from its
    parameters, and the code around them. -/
def bodyFragments (r : Routine) : List Fragment :=
  [.code "\t", .name "params", .code " := map[", .name "string", .code "]", .name "any",
    .code ("\x7b\n" ++ String.join (r.arguments.map clientForm.entry) ++ "\t\x7d\n")]
    ++ callFragments r.key r.result ++ [.code "\x7d\n"]

/-- The names that the body of a method declares or refers to. -/
def bodyNames (r : Routine) : List String :=
  Fragment.declared (bodyFragments r)

def routine (m : Method) : Routine :=
  signatureForm.routine m

/-- A method in fragments: its parameters, its body, and the code around them. -/
def methodFragments (moduleName : String) (r : Routine) : List Fragment :=
  .code ("\n" ++ (r.description.map (clientForm.comment r.identifier)).getD ""
      ++ clientForm.opening moduleName r.result r.identifier ++ "(")
    :: (signatureForm.parameters r ++ .code (clientForm.closing r.result) :: bodyFragments r)

/-- A client in fragments. -/
def clientFragments (sdk : Sdk) (api : Api) : List Fragment :=
  .code (clientForm.head sdk (heading api))
    :: api.methods.flatMap fun m => methodFragments api.resolvedModuleName (routine m)

section Bodies

variable {key moduleName : String} {result : Option String} {r : Routine} {sdk : Sdk} {api : Api}

theorem source_callFragments : Fragment.source (callFragments key result)
    = clientForm.call key result := by
  cases result with
  | none =>
      have opening : "\treturn c.rpc.Call(ctx, \"" = "\treturn " ++ ("c" ++ (".rpc.Call(" ++ ("ctx"
        ++ ", \""))) := by decide
      have closing : "\", params, nil)\n" = "\", " ++ ("params" ++ (", " ++ ("nil" ++ ")\n"))) := by
        decide
      simp only [callFragments, clientForm, opening, closing, Fragment.source_code,
        Fragment.source_name, Fragment.source_nil, String.append_assoc, String.append_empty]
  | some type =>
      have first : "\tvar result " = "\tvar " ++ ("result" ++ " ") := by decide
      have opening : "\n\terr := c.rpc.Call(ctx, \"" = "\n\t" ++ ("err" ++ (" := " ++ ("c"
        ++ (".rpc.Call(" ++ ("ctx" ++ ", \""))))) := by decide
      have closing : "\", params, &result)\n\treturn result, err\n" = "\", " ++ ("params"
          ++ (", &" ++ ("result" ++ (")\n\treturn "
            ++ ("result" ++ (", " ++ ("err" ++ "\n"))))))) := by
        decide
      simp only [callFragments, clientForm, first, opening, closing, source_typeFragments,
        Fragment.source_append, Fragment.source_code, Fragment.source_name, Fragment.source_nil,
        String.append_assoc, String.append_empty]

theorem source_bodyFragments : Fragment.source (bodyFragments r)
    = clientForm.parameterMap r ++ clientForm.call r.key r.result ++ clientForm.ending := by
  have opening : clientForm.mapOpening = "\t" ++ ("params" ++ (" := map[" ++ ("string" ++ ("]"
    ++ ("any" ++ "\x7b\n"))))) := by decide
  have closing : clientForm.mapClosing = "\t\x7d\n" := rfl
  have ending : clientForm.ending = "\x7d\n" := rfl
  simp only [bodyFragments, ClientForm.parameterMap, opening, closing, ending,
    source_callFragments, Fragment.source_append, Fragment.source_code, Fragment.source_name,
    Fragment.source_nil, String.append_assoc, String.append_empty]

theorem source_methodFragments {m : Method} :
    Fragment.source (methodFragments moduleName (routine m)) = clientForm.method moduleName m := by
  have docstring (description : Option String) :
      (description.map clientForm.docstring).getD "" = "" := by
    cases description <;> rfl
  have parameters := signatureForm.source_parameters (routine m)
  simp only [methodFragments, parameters, source_bodyFragments, Fragment.source_code,
    Fragment.source_append, String.append_assoc]
  simp only [ClientForm.method, ClientForm.block, ClientForm.signature, docstring,
    String.append_assoc, String.append_empty]
  rfl

theorem source_clientFragments :
    Fragment.source (clientFragments sdk api) = clientForm.client sdk api := by
  have foot : clientForm.foot = "" := rfl
  rw [clientFragments, Fragment.source_code,
    Fragment.source_flatMap fun m _ => source_methodFragments (m := m), ClientForm.client, foot,
    String.append_empty]

end Bodies

/-- The names that the call of a method refers to. -/
def callNames : Option String → List String
  | some type =>
      ["result"] ++ typeNames type ++ ["err", "c", "ctx", "params", "result", "result", "err"]
  | none => ["c", "ctx", "params", "nil"]

/-- The names of a body that no parameter is kept from. -/
def openNames : Option String → List String
  | some type => ["string", "any"] ++ typeNames type
  | none => ["string", "any", "nil"]

section Names

variable {name : String} {word : List Char} {d : Char} {r : Routine} {m : Method}

theorem bodyNames_eq : bodyNames r = ["params", "string", "any"] ++ callNames r.result := by
  rw [bodyNames, bodyFragments]
  cases r.result <;> simp [callFragments, callNames, typeNames]

theorem mem_bodyNames_iff (free : name ∉ boundNames) :
    name ∈ bodyNames r ↔ name ∈ openNames r.result := by
  simp only [boundNames, List.mem_cons, List.not_mem_nil, or_false, not_or] at free
  obtain ⟨c, ctx, params, result, err⟩ := free
  rw [bodyNames_eq]
  cases r.result <;> simp [callNames, openNames, c, ctx, params, result, err]

theorem routine_result : (routine m).result = stated m.returns := by
  have same (type : String) : TypeMap.target type language = type := rfl
  change (stated m.returns).map (TypeMap.target · language) = _
  simp only [same, Option.map_id']

/-- Which names get a word as their identifier that is neither reserved nor marked. -/
theorem paramName_eq_word (d : Char) (word : List Char) (simple : Simple d)
    (ascii : Text.Ascii word) (free : String.ofList (d :: word) ∉ keywords ++ boundNames)
    (plain : Plain (String.ofList (d :: word))) :
    paramName name = String.ofList (d :: word) ↔
      name = String.ofList (d :: word) ∨ name = String.ofList (d.toUpper :: word) := by
  rw [paramName_eq, paramNames.identifier_eq_plain_iff map_fst_underscored free plain]
  exact lowerCamel_eq_iff simple ascii

theorem paramName_eq_string : paramName name = "string" ↔ name = "string" ∨ name = "String" :=
  paramName_eq_word 's' ['t', 'r', 'i', 'n', 'g'] (simple_of_isLower (by decide) (by decide))
    (by decide) (by decide) ⟨by decide, by decide⟩

theorem paramName_eq_any : paramName name = "any" ↔ name = "any" ∨ name = "Any" :=
  paramName_eq_word 'a' ['n', 'y'] (simple_of_isLower (by decide) (by decide)) (by decide)
    (by decide) ⟨by decide, by decide⟩

theorem paramName_eq_nil : paramName name = "nil" ↔ name = "nil" ∨ name = "Nil" :=
  paramName_eq_word 'n' ['i', 'l'] (simple_of_isLower (by decide) (by decide)) (by decide)
    (by decide) ⟨by decide, by decide⟩

/-- A parameter hides no name of the body if it is not named like one of its surroundings. -/
theorem paramName_not_mem_bodyNames_iff :
    paramName name ∉ bodyNames (routine m) ↔
      name ∉ ["string", "String", "any", "Any"] ∧
      (stated m.returns = none → name ∉ ["nil", "Nil"]) ∧
      ∀ type, stated m.returns = some type → paramName name ∉ typeNames type := by
  have free : paramName name ∉ boundNames :=
    fun mem => paramName_not_mem (List.mem_append_right _ mem)
  rw [mem_bodyNames_iff free, routine_result]
  simp only [List.mem_cons, List.not_mem_nil, or_false]
  cases stated m.returns with
  | none =>
      have missing : (∀ type, (none : Option String) = some type →
          paramName name ∉ typeNames type) ↔ True := iff_true_intro nofun
      simp only [openNames, List.mem_cons, List.not_mem_nil, or_false, paramName_eq_string,
        paramName_eq_any, paramName_eq_nil, missing]
      tauto
  | some type =>
      simp only [openNames, List.mem_append, List.mem_cons, List.not_mem_nil, or_false,
        paramName_eq_string, paramName_eq_any, Option.some.injEq, forall_eq', reduceCtorEq,
        false_implies]
      tauto

end Names

/-- The parameters of a method are never keywords and never variables of its body. They hide no
    name that the body refers to if and only if none is named like the types of the parameter map
    or the missing result, and none gets a name of the type of the result as its identifier. -/
theorem emitClient_captures_iff {sdk : Sdk} (valid : sdk.check = .ok ()) :
    ∃ target, builtin language sdk = .ok target ∧ ∀ api : Api,
      target.emitClient api = .ok (Fragment.source (clientFragments sdk api)) ∧
      ∀ m ∈ api.methods,
        Fragment.declared (signatureForm.parameters (routine m))
          = "ctx" :: m.params.map (fun p => paramName p.name) ∧
        (∀ p ∈ m.params, paramName p.name ∉ keywords ∧ paramName p.name ∉ boundNames) ∧
        ((∀ p ∈ m.params, paramName p.name ∉ bodyNames (routine m)) ↔
          ∀ p ∈ m.params,
            p.name ∉ ["string", "String", "any", "Any"] ∧
            (stated m.returns = none → p.name ∉ ["nil", "Nil"]) ∧
            ∀ type, stated m.returns = some type → paramName p.name ∉ typeNames type) := by
  obtain ⟨target, built, describes⟩ := target_describes valid
  refine ⟨target, built, fun api => ⟨?_, fun m _ => ⟨?_, fun p _ => ?_, ?_⟩⟩⟩
  · rw [describes.emitClient, source_clientFragments]
    rfl
  · exact signatureForm.declared_parameters m
  · rw [← not_or, ← List.mem_append]
    exact paramName_not_mem
  · exact forall₂_congr fun p _ => paramName_not_mem_bodyNames_iff

theorem emitClient_captures_iff_time :
    let m : Method := {
      name := "Find", params := [{ name := "type", typeName := "string" }],
      returns := some "time.Time" }
    let api : Api := { package := "ledger", methods := [m] }
    ({} : Sdk).check = .ok () ∧ ∃ target, builtin language {} = .ok target ∧
      target.emitClient api = .ok (Fragment.source (clientFragments {} api)) ∧
      ∀ p ∈ m.params, paramName p.name ∉ bodyNames (routine m) := by
  intro m api
  obtain ⟨target, built, written⟩ := emitClient_captures_iff Sdk.default_check
  obtain ⟨emitted, methods⟩ := written api
  refine ⟨Sdk.default_check, target, built, emitted,
    (methods m (List.mem_singleton_self m)).2.2.mpr ?_⟩
  refine List.forall_mem_singleton.mpr ⟨by decide, ?_, ?_⟩
  · intro missing
    cases missing
  · intro type given
    cases given
    decide

/-- A parameter that hides the type of the keys of the parameter map, in an accepted API. -/
theorem emitClient_captures_string :
    let m : Method := { name := "Find", params := [{ name := "string", typeName := "string" }] }
    let api : Api := { package := "ledger", methods := [m] }
    (Check.api api "api.json").ok = true ∧
      ∃ target, builtin language {} = .ok target ∧
        target.emitClient api = .ok (Fragment.source (clientFragments {} api)) ∧
        Fragment.declared (signatureForm.parameters (routine m)) = ["ctx", "string"] ∧
        "string" ∈ bodyNames (routine m) := by
  intro m api
  obtain ⟨target, built, describes⟩ := target_describes Sdk.default_check
  refine ⟨by decide, target, built, ?_, ?_, by decide⟩
  · rw [describes.emitClient, source_clientFragments]
    rfl
  · exact (signatureForm.declared_parameters m).trans (by decide)

end ClientGen.Target.Go
