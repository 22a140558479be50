import ClientGen.Proofs.Target.Python.Trees

/-! # Python sources

The form of Python packages, and that the templates write packages of this form.
-/

namespace ClientGen.Target.Python

open Template

def clientForm : ClientForm where
  language := language
  methodName := identifier
  paramName := identifier
  head _ h :=
    "# Code generated by sdkgen. DO NOT EDIT.\n# Source: " ++ h.package ++ " ("
      ++ h.apiVersion.name ++ clientImports
      ++ Naming.upperCamel h.moduleName ++ "Client:\n    \"\"\"Client for the " ++ h.package
      ++ initializer ++ h.apiPath ++ "\", timeout=timeout)\n"
  comment _ _ := ""
  opening _ _ identifier := "    def " ++ identifier
  receiver := ["self"]
  declaration a := a.identifier ++ ": " ++ a.type
  closing
    | some type => ") -> " ++ type ++ ":\n"
    | none => ") -> None:\n"
  docstring description :=
    "        \"\"\"" ++ Filters.indentLines 8 false false (docstring description) ++ "\"\"\"\n"
  mapOpening := "        params: Dict[str, Any] = \x7b\n"
  entry a := "            \"" ++ a.key ++ "\": " ++ a.identifier ++ ",\n"
  mapClosing := "        \x7d\n"
  call
    | key, some _ => "        return self._rpc.call(\"" ++ key ++ "\", params)\n"
    | key, none => "        self._rpc.call(\"" ++ key ++ "\", params)\n"
  ending := ""
  foot := ""

/-- The fields of a class, which is not empty even if it has none. -/
def fieldPass : Pass Field where
  opening name := "\n\n@dataclass(kw_only=True)\nclass " ++ Naming.upperCamel name ++ ":\n"
  part _ _ field :=
    "    " ++ identifier field.name ++ ": "
      ++ fieldType field.typeName field.optional field.list
      ++ (if field.optional then " = None" else "") ++ "\n"
  placeholder := "    pass\n"

def recordForm : TypeForm Field where
  passes := [fieldPass]
  closing _ := ""

/-- The members of an enumeration, in upper case. -/
def memberPass : Pass Member where
  opening name := "\n\nclass " ++ Naming.upperCamel name ++ "(Enum):\n"
  part _ _ member :=
    "    " ++ Text.uppercase (Naming.snakeCase member.name) ++ " = "
      ++ Environment.literal .json member.value.toValue ++ "\n"
  placeholder := "    pass\n"

def enumForm : TypeForm Member where
  passes := [memberPass]
  closing _ := ""

def typesForm : TypesForm where
  head _ package :=
    "# Code generated by sdkgen. DO NOT EDIT.\n# Source: " ++ package
      ++ typesImports
  record := recordForm
  enum := enumForm

theorem recordForm_showsParts : recordForm.ShowsParts := by
  refine ⟨List.cons_ne_nil _ _, ?_⟩
  exact List.forall_mem_singleton.mpr fun _ _ _ => append_ne_empty (by decide)

theorem enumForm_showsParts : enumForm.ShowsParts := by
  refine ⟨List.cons_ne_nil _ _, ?_⟩
  exact List.forall_mem_singleton.mpr fun _ _ _ => append_ne_empty (by decide)

/-- The manifest of a package. -/
def pyproject (sdk : Sdk) : String :=
  buildSystem ++ sdk.packageName
    ++ "\"\nversion = \"" ++ sdk.version ++ "\"\ndescription = \"" ++ summary sdk
    ++ requirements ++ sdk.packageName ++ "\"]\n"

def packageForm : PackageForm where
  client := clientForm
  types := typesForm
  clientPath sdk := sdk.packageName ++ "/client.py"
  typesPath sdk := sdk.packageName ++ "/types.py"
  additional sdk := [
    ("pyproject.toml", pyproject sdk), (sdk.packageName ++ "/__init__.py", packageTemplate),
    (sdk.packageName ++ "/_jsonrpc.py", transportTemplate)]

def environment : Environment :=
  withTemplates helpers clientTree typesTree

variable {template : String} {fuel : Nat}

section Client

variable {api : Api} {sdk : Sdk}

theorem writes_method (m : Method) (loop : Value) :
    Writes (environment.setting template fuel) (methodScope api sdk loop m) methodTree
      (clientForm.method api.resolvedModuleName m) := by
  refine .of_eq (.text <|
    .ifStated rfl rfl
      (fun type given => .text <| .shown (.helper rfl rfl (.part rfl rfl)) <| .text <|
        .andThen (writes_declarations rfl rfl (fun _ _ => ⟨rfl, rfl⟩) 21) <| .text <|
        .shown (.helper rfl rfl (.given rfl rfl given)) <| .text .nil)
      (.text <| .shown (.helper rfl rfl (.part rfl rfl)) <| .text <|
        .andThen (writes_declarations rfl rfl (fun _ _ => ⟨rfl, rfl⟩) 23) <| .text .nil) <|
    .ifStated rfl rfl
      (fun text given => .text <|
        .shown (.filter (.helper rfl rfl (.given rfl rfl given)) (.cons (.literal _) .nil) rfl) <|
        .text .nil)
      .nil <|
    .text <| .andThen (writes_entries rfl (fun _ _ => rfl) 29) <| .text <|
    .ifStated rfl rfl
      (fun type given => .text <| .shown (.part rfl rfl) <| .text .nil)
      (.text <| .shown (.part rfl rfl) <| .text .nil)
    .nil) ?_
  -- the template asks in several places what the routine has settled once
  rw [ClientForm.method, ClientForm.routine]
  cases stated m.description <;> cases stated m.returns <;>
    simp [ClientForm.block, ClientForm.signature, ClientForm.parameterMap, ClientForm.argument,
      clientForm, typeName, parenthesized_cons, String.append_assoc, Function.comp_def]

theorem writes_client :
    Writes (environment.setting template fuel) (clientScope api sdk) clientTree
      (clientForm.client sdk api) := by
  refine .of_eq (.text <| .shown (.part rfl rfl) <| .text <| .shown (.part rfl rfl) <| .text <|
    .shown (.helper rfl rfl (.bound rfl)) <| .text <| .shown (.part rfl rfl) <| .text <|
    .shown (.part rfl rfl) <| .text <| .forEach rfl rfl rfl writes_method .nil) ?_
  simp [ClientForm.client, clientForm, heading, String.append_assoc]

end Client

section Types

variable {types : Types} {sdk : Sdk}

theorem writes_record (type : RecordType) (loop : Value) :
    Writes (environment.setting template fuel) (recordScope types sdk loop type) recordTree
      (recordForm.block type.name type.fields) := by
  have declared (field : Field) (rounds : Value) (last : Bool)
      (_ : rounds.part (.str "last") = .ok (.bool last)) :
      Writes (environment.setting template fuel) (fieldScope types sdk loop type rounds field)
        fieldTree (fieldPass.part type.name last field) :=
    .of_eq (.text <| .shown (.helper rfl rfl (.part rfl rfl)) <| .text <|
      writes_fieldType (by rfl) rfl 16 <| .shown (.pick (.part rfl rfl)) <| .text .nil)
      (by unfold fieldPass; simp [String.append_assoc])
  refine .of_eq (.text <| .shown (.helper rfl rfl (.part rfl rfl)) <| .text <|
    .forPart rfl rfl rfl declared (.text .nil) .nil) ?_
  unfold recordForm fieldPass
  simp [TypeForm.block, Pass.text, String.append_assoc]

theorem writes_enum (enum : EnumType) (loop : Value) :
    Writes (environment.setting template fuel) (enumScope types sdk loop enum) enumTree
      (enumForm.block enum.name enum.values) := by
  have listed (member : Member) (rounds : Value) (last : Bool)
      (_ : rounds.part (.str "last") = .ok (.bool last)) :
      Writes (environment.setting template fuel) (memberScope types sdk loop enum rounds member)
        memberTree (memberPass.part enum.name last member) :=
    .of_eq (.text <| .shown (.filter (.helper rfl rfl (.part rfl rfl)) .nil rfl) <| .text <|
      .shown (.quoted rfl rfl (.part rfl rfl)) <| .text .nil)
      (by simp [memberPass, String.append_assoc])
  refine .of_eq (.text <| .shown (.helper rfl rfl (.part rfl rfl)) <| .text <|
    .forPart rfl rfl rfl listed (.text .nil) .nil) ?_
  simp [enumForm, TypeForm.block, Pass.text, memberPass, String.append_assoc]

theorem writes_types :
    Writes (environment.setting template fuel) (typesScope types sdk) typesTree
      (typesForm.source sdk types) := by
  refine .of_eq (.text <| .shown (.part rfl rfl) <| .text <|
    .forEach rfl rfl rfl writes_record <| .forEach rfl rfl rfl writes_enum .nil) ?_
  unfold TypesForm.source typesForm
  simp [String.append_assoc]

end Types

theorem writes_pyproject {sdk : Sdk} :
    Writes (environment.setting template fuel) (manifestScope sdk) pyprojectTree
      (pyproject sdk) :=
  .of_eq (.text <| .shown (.bound rfl) <| .text <| .shown (.bound rfl) <| .text <|
    .shown yields_summary <| .text <| .shown (.bound rfl) <| .text .nil)
    (by unfold pyproject; simp [String.append_assoc])

/-- The manifest is the only file outside of the directory of the package. -/
theorem paths_nodup {sdk : Sdk} : (packageForm.paths sdk).Nodup := by
  have outside (file : String) (inside : '/' ∈ file.toList) :
      sdk.packageName ++ file ≠ "pyproject.toml" := by
    intro same
    have mem : '/' ∈ "pyproject.toml".toList := by
      rw [← same, String.toList_append]
      exact List.mem_append_right _ inside
    exact absurd mem (by decide)
  simp [PackageForm.paths, packageForm, outside "/client.py" (by decide),
    outside "/types.py" (by decide), (outside "/__init__.py" (by decide)).symm,
    (outside "/_jsonrpc.py" (by decide)).symm]

theorem target_describes {sdk : Sdk} (valid : sdk.check = .ok ()) :
    ∃ t, target sdk = .ok t ∧ packageForm.Describes sdk t := by
  have environments : addTemplates language clientTemplate typesTemplate helpers
      = .ok environment := addTemplates_eq clientReading typesReading
  refine ⟨_, by rw [target, checkSdk_eq valid, ok_bind, environments]; rfl, ?_⟩
  exact {
    clientPath := rfl
    typesPath := rfl
    emitClient _ := emitClient_eq rfl writes_client
    emitTypes _ := emitTypes_eq rfl writes_types
    additional :=
      .cons ⟨rfl, emitAdditional_eq pyprojectReading (frameOf_manifest sdk ▸ writes_pyproject)⟩ <|
      .cons ⟨rfl, emitAdditional_eq packageReading (.of_eq (.text .nil) String.append_empty)⟩ <|
      .cons ⟨rfl, emitAdditional_eq transportReading (.of_eq (.text .nil) String.append_empty)⟩
      .nil
    distinct := paths_nodup }

end ClientGen.Target.Python
