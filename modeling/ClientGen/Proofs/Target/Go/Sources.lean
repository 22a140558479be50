import ClientGen.Proofs.Target.Go.Trees

/-! # Go sources

The form of Go packages, and that the templates write packages of this form.
-/

namespace ClientGen.Target.Go

open Template

def clientForm : ClientForm where
  language := language
  methodName := Naming.upperCamel
  paramName := paramName
  head sdk h :=
    "// Code generated by sdkgen. DO NOT EDIT.\n// Source: " ++ h.package ++ " ("
      ++ h.apiVersion.name ++ ")\n\npackage " ++ sdk.packageName ++ clientImports
      ++ Naming.upperCamel h.moduleName ++ "Client calls the " ++ h.packageName ++ " API.\ntype "
      ++ Naming.upperCamel h.moduleName
      ++ "Client struct \x7b\n\trpc *JSONRPCClient\n\x7d\n\n// New"
      ++ Naming.upperCamel h.moduleName
      ++ "Client returns a client for the server at endpoint.\nfunc New"
      ++ Naming.upperCamel h.moduleName ++ "Client(endpoint string) *"
      ++ Naming.upperCamel h.moduleName ++ "Client \x7b\n\treturn &"
      ++ Naming.upperCamel h.moduleName
      ++ "Client\x7brpc: NewJSONRPCClient(strings.TrimRight(endpoint, \"/\") + \""
      ++ h.apiPath ++ "\")\x7d\n\x7d\n"
  comment identifier description :=
    Naming.docComment (identifier ++ " " ++ description) "//" ++ "\n"
  opening moduleName _ identifier :=
    "func (c *" ++ Naming.upperCamel moduleName ++ "Client) " ++ identifier
  receiver := ["ctx context.Context"]
  declaration a := a.identifier ++ " " ++ a.type
  closing
    | some type => ") (" ++ type ++ ", error) \x7b\n"
    | none => ") error \x7b\n"
  docstring _ := ""
  mapOpening := "\tparams := map[string]any\x7b\n"
  entry a := "\t\t\"" ++ a.key ++ "\": " ++ a.identifier ++ ",\n"
  mapClosing := "\t\x7d\n"
  call
    | key, some type =>
      "\tvar result " ++ type ++ "\n\terr := c.rpc.Call(ctx, \"" ++ key
        ++ "\", params, &result)\n\treturn result, err\n"
    | key, none => "\treturn c.rpc.Call(ctx, \"" ++ key ++ "\", params, nil)\n"
  ending := "\x7d\n"
  foot := ""

/-- The fields of a struct. -/
def fieldPass : Pass Field where
  opening name := "\ntype " ++ Naming.upperCamel name ++ " struct \x7b\n"
  part _ _ field :=
    "\t" ++ Naming.upperCamel field.name ++ " "
      ++ fieldType field.typeName field.optional field.list ++ " \x60json:\"" ++ field.name
      ++ (if field.optional then ",omitempty" else "") ++ "\"\x60\n"

def recordForm : TypeForm Field where
  passes := [fieldPass]
  closing _ := "\x7d\n"

/-- The constants of an enumeration, whose names start with its own. -/
def memberPass : Pass Member where
  opening name := "\n// " ++ Naming.upperCamel name ++ " values.\nconst (\n"
  part name _ member :=
    "\t" ++ Naming.upperCamel name ++ Naming.upperCamel member.name ++ " = "
      ++ Environment.literal .json member.value.toValue ++ "\n"

def enumForm : TypeForm Member where
  passes := [memberPass]
  closing _ := ")\n"

def typesForm : TypesForm where
  head sdk package :=
    "// Code generated by sdkgen. DO NOT EDIT.\n// Source: " ++ package ++ "\n\npackage "
      ++ sdk.packageName ++ "\n\nimport \"time\"\n\nvar _ time.Time\n"
  record := recordForm
  enum := enumForm

theorem recordForm_showsParts : recordForm.ShowsParts := by
  refine ⟨List.cons_ne_nil _ _, ?_⟩
  exact List.forall_mem_singleton.mpr fun _ _ _ => append_ne_empty (by decide)

theorem enumForm_showsParts : enumForm.ShowsParts := by
  refine ⟨List.cons_ne_nil _ _, ?_⟩
  exact List.forall_mem_singleton.mpr fun _ _ _ => append_ne_empty (by decide)

/-- The manifest of a package. -/
def goMod (sdk : Sdk) : String :=
  "module " ++ sdk.packageName ++ "\n\ngo 1.21\n"

def packageForm : PackageForm where
  client := clientForm
  types := typesForm
  clientPath _ := "client.go"
  typesPath _ := "types.go"
  additional sdk := [
    ("go.mod", goMod sdk), ("jsonrpc.go", transportStart ++ sdk.packageName ++ transportEnd)]

def environment (sdk : Sdk) : Environment :=
  withTemplates (helpers sdk) clientTree typesTree

variable {template : String} {fuel : Nat}

section Client

variable {api : Api} {sdk : Sdk}

theorem writes_method (m : Method) (loop : Value) :
    Writes ((environment sdk).setting template fuel) (methodScope api sdk loop m) methodTree
      (clientForm.method api.resolvedModuleName m) := by
  refine .of_eq (.text <|
    .ifStated rfl rfl
      (fun text given => .shown (.docComment rfl rfl
          (.joined (.joined (.helper rfl rfl (.part rfl rfl)) (.literal _))
            (.given rfl rfl given))) <|
        .text .nil)
      .nil <|
    .ifStated rfl rfl
      (fun type given => .text <| .shown (.helper rfl rfl (.bound rfl)) <| .text <|
        .shown (.helper rfl rfl (.part rfl rfl)) <| .text <|
        .andThen (writes_declarations rfl rfl (fun _ _ => ⟨rfl, rfl⟩) 32) <| .text <|
        .shown (.helper rfl rfl (.given rfl rfl given)) <| .text .nil)
      (.text <| .shown (.helper rfl rfl (.bound rfl)) <| .text <|
        .shown (.helper rfl rfl (.part rfl rfl)) <| .text <|
        .andThen (writes_declarations rfl rfl (fun _ _ => ⟨rfl, rfl⟩) 34) <| .text .nil) <|
    .text <| .andThen (writes_entries rfl (fun _ _ => rfl) 37) <| .text <|
    .ifStated rfl rfl
      (fun type given => .text <| .shown (.helper rfl rfl (.given rfl rfl given)) <| .text <|
        .shown (.part rfl rfl) <| .text .nil)
      (.text <| .shown (.part rfl rfl) <| .text .nil) <|
    .text .nil) ?_
  -- the template asks in several places what the routine has settled once
  rw [ClientForm.method, ClientForm.routine]
  cases stated m.description <;> cases stated m.returns <;>
    simp [ClientForm.block, ClientForm.signature, ClientForm.parameterMap, ClientForm.argument,
      clientForm, typeName, parenthesized_cons, String.append_assoc, Function.comp_def]

theorem writes_client :
    Writes ((environment sdk).setting template fuel) (clientScope api sdk) clientTree
      (clientForm.client sdk api) := by
  refine .of_eq (.text <| .shown (.part rfl rfl) <| .text <| .shown (.part rfl rfl) <| .text <|
    .shown (.constant rfl rfl) <| .text <| .shown (.helper rfl rfl (.bound rfl)) <| .text <|
    .shown (.bound rfl) <| .text <| .shown (.helper rfl rfl (.bound rfl)) <| .text <|
    .shown (.helper rfl rfl (.bound rfl)) <| .text <| .shown (.helper rfl rfl (.bound rfl)) <|
    .text <| .shown (.helper rfl rfl (.bound rfl)) <| .text <|
    .shown (.helper rfl rfl (.bound rfl)) <| .text <| .shown (.part rfl rfl) <| .text <|
    .forEach rfl rfl rfl writes_method .nil) ?_
  simp [ClientForm.client, clientForm, heading, String.append_assoc]

end Client

section Types

variable {types : Types} {sdk : Sdk}

theorem writes_record (type : RecordType) (loop : Value) :
    Writes ((environment sdk).setting template fuel) (recordScope types sdk loop type) recordTree
      (recordForm.block type.name type.fields) := by
  have declared (field : Field) (rounds : Value) (last : Bool)
      (_ : rounds.part (.str "last") = .ok (.bool last)) :
      Writes ((environment sdk).setting template fuel)
        (fieldScope types sdk loop type rounds field)
        fieldTree (fieldPass.part type.name last field) :=
    .of_eq (.text <| .shown (.helper rfl rfl (.part rfl rfl)) <| .text <|
      writes_fieldType (by rfl) rfl 13 <| .text <| .shown (.part rfl rfl) <|
      .shown (.pick (.part rfl rfl)) <| .text .nil)
      (by simp [fieldPass, String.append_assoc])
  refine .of_eq (.text <| .shown (.helper rfl rfl (.part rfl rfl)) <| .text <|
    .forPart rfl rfl rfl declared .nil <| .text .nil) ?_
  simp [recordForm, TypeForm.block, Pass.text, fieldPass, String.append_assoc]

theorem writes_enum (enum : EnumType) (loop : Value) :
    Writes ((environment sdk).setting template fuel) (enumScope types sdk loop enum) enumTree
      (enumForm.block enum.name enum.values) := by
  have listed (member : Member) (rounds : Value) (last : Bool)
      (_ : rounds.part (.str "last") = .ok (.bool last)) :
      Writes ((environment sdk).setting template fuel)
        (memberScope types sdk loop enum rounds member)
        memberTree (memberPass.part enum.name last member) :=
    .of_eq (.text <| .shown (.helper rfl rfl (.part rfl rfl)) <|
      .shown (.helper rfl rfl (.part rfl rfl)) <| .text <|
      .shown (.quoted rfl rfl (.part rfl rfl)) <| .text .nil)
      (by simp [memberPass, String.append_assoc])
  refine .of_eq (.text <| .shown (.helper rfl rfl (.part rfl rfl)) <| .text <|
    .forPart rfl rfl rfl listed .nil <| .text .nil) ?_
  simp [enumForm, TypeForm.block, Pass.text, memberPass, String.append_assoc]

theorem writes_types :
    Writes ((environment sdk).setting template fuel) (typesScope types sdk) typesTree
      (typesForm.source sdk types) := by
  refine .of_eq (.text <| .shown (.part rfl rfl) <| .text <| .shown (.constant rfl rfl) <|
    .text <| .forEach rfl rfl rfl writes_record <| .forEach rfl rfl rfl writes_enum .nil) ?_
  unfold TypesForm.source typesForm
  simp [String.append_assoc]

end Types

theorem writes_goMod {sdk : Sdk} :
    Writes ((environment sdk).setting template fuel) (manifestScope sdk) goModTree (goMod sdk) :=
  .of_eq (.text <| .shown (.bound rfl) <| .text .nil) (by simp [goMod, String.append_assoc])

theorem writes_transport {sdk : Sdk} :
    Writes ((environment sdk).setting template fuel) [[]] transportTree
      (transportStart ++ sdk.packageName ++ transportEnd) :=
  .of_eq (.text <| .shown (.constant rfl rfl) <| .text .nil) (by simp [String.append_assoc])

theorem paths_nodup {sdk : Sdk} : (packageForm.paths sdk).Nodup := by
  show ["client.go", "types.go", "go.mod", "jsonrpc.go"].Nodup
  decide

theorem target_describes {sdk : Sdk} (valid : sdk.check = .ok ()) :
    ∃ t, target sdk = .ok t ∧ packageForm.Describes sdk t := by
  have environments : addTemplates language clientTemplate typesTemplate (helpers sdk)
      = .ok (environment sdk) := addTemplates_eq clientReading typesReading
  refine ⟨_, by rw [target, checkSdk_eq valid, ok_bind, environments]; rfl, ?_⟩
  exact {
    clientPath := rfl
    typesPath := rfl
    emitClient _ := emitClient_eq rfl writes_client
    emitTypes _ := emitTypes_eq rfl writes_types
    additional :=
      .cons ⟨rfl, emitAdditional_eq goModReading (frameOf_manifest sdk ▸ writes_goMod)⟩ <|
      .cons ⟨rfl, emitAdditional_eq transportReading writes_transport⟩ .nil
    distinct := paths_nodup }

end ClientGen.Target.Go
