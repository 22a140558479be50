import ClientGen.Proofs.Target.Emission
import ClientGen.Proofs.Target.Python.Docstring
import ClientGen.Proofs.Text.Trimming

/-! # Descriptions in Python clients

The description of a method is the docstring of its definition. It is read back as the
description, without the blanks at its end and with its later lines as deep as the docstring, but
for one case: if the description ends in three quotes, or six, or nine, the docstring is closed
before its last character.
-/

namespace ClientGen.Target.Python

open Template Text

/-- What the emitted docstring of a description says between its quotes. -/
def docstringSource (description : String) : String :=
  Filters.indentLines 8 false false (docstring description)

/-- A description without blanks at its end, whose lines begin as deep as the docstring. -/
def hanging (description : String) : List Char :=
  Filters.hang 8 false (trimEnd description).toList

theorem toList_docstringSource (d : String) : (docstringSource d).toList = body (hanging d) := by
  have written : (docstring d).toList = body (trimEnd d).toList :=
    (toList_docstring d).trans (closed_escaped _)
  have lineEnd (c : Char) (blank : isBlank c = true) : (docstring d).toList.getLast? ≠ some c := by
    rw [written, getLast?_body]
    exact getLast?_trimEnd_ne blank d
  rw [docstringSource, Filters.toList_indentLines (lineEnd '\n' (by decide))
    (lineEnd '\r' (by decide)), written, hang_body, hanging]

/-- The value of a docstring and what follows its closing quotes. -/
def readDocstring (s : String) : Option (String × String) :=
  (docstringValue? s.toList).map (Prod.map String.ofList String.ofList)

theorem readDocstring_source (d rest : String) :
    readDocstring (docstringSource d ++ "\"\"\"" ++ rest) =
      if EndsInTriples (trimEnd d).toList then
        some (String.ofList ((hanging d).dropLast ++ ['\\']), "\"" ++ rest)
      else some (String.ofList (hanging d), rest) := by
  have ends : EndsInTriples (hanging d) ↔ EndsInTriples (trimEnd d).toList := by
    rw [EndsInTriples, hanging, endQuotes_hang, EndsInTriples]
  have text : (docstringSource d ++ "\"\"\"" ++ rest).toList
      = body (hanging d) ++ '"' :: '"' :: '"' :: rest.toList := by
    rw [String.toList_append, String.toList_append, toList_docstringSource, List.append_assoc]
    rfl
  rw [readDocstring, text, docstringValue?_body, outcome]
  by_cases triples : EndsInTriples (trimEnd d).toList
  · rw [if_pos (ends.mpr triples), if_pos triples, Option.map_some, Prod.map_apply,
      String.ofList_cons, String.ofList_toList]
    rfl
  · rw [if_neg (mt ends.mp triples), if_neg triples, Option.map_some, Prod.map_apply,
      String.ofList_toList]

/-- The source of a client up to the docstring of a method, behind some methods. -/
def sourceBefore (sdk : Sdk) (api : Api) (earlier : List Method) (m : Method) : String :=
  clientForm.head sdk (heading api)
    ++ String.join (earlier.map (clientForm.method api.resolvedModuleName)) ++ "\n"
    ++ clientForm.signature api.resolvedModuleName
      (clientForm.routine m.name m.params m.returns m.description) ++ "        "

/-- The source of a client from the end of a docstring on, with the methods that follow. -/
def sourceAfter (api : Api) (m : Method) (later : List Method) : String :=
  let r := clientForm.routine m.name m.params m.returns m.description
  "\n" ++ clientForm.parameterMap r ++ clientForm.call r.key r.result
    ++ String.join (later.map (clientForm.method api.resolvedModuleName))

variable {sdk : Sdk} {api : Api} {earlier later : List Method} {m : Method} {d : String}

theorem block_eq_around {moduleName : String} {r : Routine} (stated : r.description = some d) :
    clientForm.block moduleName r = "\n" ++ clientForm.signature moduleName r ++ "        "
      ++ "\"\"\"" ++ docstringSource d ++ "\"\"\"" ++ "\n" ++ clientForm.parameterMap r
      ++ clientForm.call r.key r.result := by
  have opening : "        \"\"\"" = "        " ++ "\"\"\"" := rfl
  have closing : "\"\"\"\n" = "\"\"\"" ++ "\n" := rfl
  rw [ClientForm.block, stated]
  show "\n" ++ "" ++ _ ++ ("        \"\"\"" ++ docstringSource d ++ "\"\"\"\n") ++ _ ++ _ ++ "" = _
  rw [opening, closing]
  simp only [String.append_assoc, String.append_empty]

theorem client_eq_around (split : api.methods = earlier ++ m :: later)
    (described : m.description = some d) (nonempty : d ≠ "") :
    clientForm.client sdk api = sourceBefore sdk api earlier m ++ "\"\"\""
      ++ docstringSource d ++ "\"\"\"" ++ sourceAfter api m later := by
  have given : stated m.description = some d := by
    rw [described, stated]
    simp [nonempty]
  rw [ClientForm.client, split, List.map_append, List.map_cons, String.join_append,
    String.join_cons, ClientForm.method, block_eq_around given]
  show _ ++ "" = _
  simp only [sourceBefore, sourceAfter, String.append_assoc, String.append_empty]

/-- The docstring of a method in an emitted client, and what is read of it. -/
theorem emitClient_docstring (valid : sdk.check = .ok ())
    (split : api.methods = earlier ++ m :: later) (described : m.description = some d)
    (nonempty : d ≠ "") :
    ∃ target, builtin "python" sdk = .ok target ∧
      target.emitClient api = .ok (sourceBefore sdk api earlier m ++ "\"\"\""
        ++ docstringSource d ++ "\"\"\"" ++ sourceAfter api m later) ∧
      readDocstring (docstringSource d ++ "\"\"\"" ++ sourceAfter api m later) =
        if EndsInTriples (trimEnd d).toList then
          some (String.ofList ((hanging d).dropLast ++ ['\\']), "\"" ++ sourceAfter api m later)
        else some (String.ofList (hanging d), sourceAfter api m later) := by
  obtain ⟨target, built, describes⟩ := target_describes valid
  refine ⟨target, built, ?_, readDocstring_source d _⟩
  rw [describes.emitClient]
  exact congrArg Except.ok (client_eq_around split described nonempty)

theorem emitClient_docstring_greeting :
    let m : Method := { name := "Greet", description := some "Say \"hi\"" }
    let api : Api := { package := "ledger", methods := [m] }
    ({} : Sdk).check = .ok () ∧ api.methods = [] ++ m :: [] ∧
      m.description = some "Say \"hi\"" ∧ "Say \"hi\"" ≠ "" ∧
      ∃ target, builtin "python" {} = .ok target ∧
        target.emitClient api = .ok (sourceBefore {} api [] m ++ "\"\"\""
          ++ "Say \"hi\\\"" ++ "\"\"\"" ++ sourceAfter api m []) ∧
        readDocstring ("Say \"hi\\\"" ++ "\"\"\"" ++ sourceAfter api m [])
          = some ("Say \"hi\"", sourceAfter api m []) := by
  intro m api
  exact ⟨Sdk.default_check, rfl, rfl, by decide,
    emitClient_docstring (d := "Say \"hi\"") Sdk.default_check rfl rfl (by decide)⟩

/-- Three quotes at the end of a description close its docstring early. -/
theorem emitClient_docstring_closesEarly :
    let m : Method := { name := "Greet", description := some "\"\"\"" }
    let api : Api := { package := "ledger", methods := [m] }
    ∃ target, builtin "python" {} = .ok target ∧
      target.emitClient api = .ok (sourceBefore {} api [] m ++ "\"\"\""
        ++ "\\\"\\\"\\\\\"" ++ "\"\"\"" ++ sourceAfter api m []) ∧
      readDocstring ("\\\"\\\"\\\\\"" ++ "\"\"\"" ++ sourceAfter api m [])
        ≠ some ("\"\"\"", sourceAfter api m []) := by
  intro m api
  obtain ⟨target, built, describes⟩ := target_describes Sdk.default_check
  have source : docstringSource "\"\"\"" = "\\\"\\\"\\\\\"" := rfl
  refine ⟨target, built, ?_, ?_⟩
  · rw [describes.emitClient, ← source]
    exact congrArg Except.ok (client_eq_around rfl rfl (by decide))
  · rw [← source, readDocstring_source, if_pos (by decide)]
    exact fun same => absurd (congrArg Prod.fst (Option.some.inj same)) (by decide)

end ClientGen.Target.Python
