import ClientGen.Proofs.Target.Rust.Trees

/-! # Rust sources

The form of Rust packages, and that the templates write packages of this form.
-/

namespace ClientGen.Target.Rust

open Template

def clientForm : ClientForm where
  language := language
  methodName := identifier
  paramName := identifier
  head _ h :=
    "// Code generated by sdkgen. DO NOT EDIT.\n// Source: " ++ h.package ++ " ("
      ++ h.apiVersion.name ++ clientImports ++ h.apiPath ++ "\";\n\n/// Client for the "
      ++ h.package ++ " API.\n#[derive(Debug, Clone)]\npub struct "
      ++ Naming.upperCamel h.moduleName
      ++ "Client \x7b\n    rpc: JsonRpcClient,\n\x7d\n\nimpl " ++ Naming.upperCamel h.moduleName
      ++ constructor
  comment _ description := Naming.docComment description "    ///" ++ "\n"
  opening _ _ identifier := "    pub async fn " ++ identifier
  receiver := ["&self"]
  declaration a := a.identifier ++ ": " ++ a.type
  closing result := ") -> Result<" ++ result.getD "()" ++ ", JsonRpcError> \x7b\n"
  docstring _ := ""
  mapOpening := "        let params = json!(\x7b\n"
  entry a := "            \"" ++ a.key ++ "\": " ++ a.identifier ++ ",\n"
  mapClosing := "        \x7d);\n"
  call
    | key, some _ => "        self.rpc.call(\"" ++ key ++ "\", params).await\n"
    | key, none =>
      "        self.rpc.call::<serde_json::Value>(\"" ++ key
        ++ "\", params).await?;\n        Ok(())\n"
  ending := "    \x7d\n"
  foot := "\x7d\n"

/-- The fields of a struct. -/
def fieldPass : Pass Field where
  opening name :=
    "\n#[derive(Debug, Clone, PartialEq, Serialize, Deserialize)]\npub struct "
      ++ Naming.upperCamel name ++ " \x7b\n"
  part _ _ field :=
    (if field.optional then
      "    #[serde(rename = \"" ++ field.name
        ++ "\", default, skip_serializing_if = \"Option::is_none\")]\n"
    else "    #[serde(rename = \"" ++ field.name ++ "\")]\n")
      ++ "    pub " ++ identifier field.name ++ ": "
      ++ fieldType field.typeName field.optional field.list ++ ",\n"

def recordForm : TypeForm Field where
  passes := [fieldPass]
  closing _ := "\x7d\n"

/-- The variants of an enumeration. -/
def variantPass : Pass Member where
  opening name :=
    "\n#[derive(Debug, Clone, Copy, PartialEq, Eq, Hash)]\npub enum " ++ Naming.upperCamel name
      ++ " \x7b\n"
  part _ _ member := "    " ++ Naming.upperCamel member.name ++ ",\n"

/-- The values of its variants. -/
def valuePass : Pass Member where
  opening name :=
    "\x7d\n\nimpl " ++ Naming.upperCamel name ++ valueFunction
  part _ _ member :=
    "            Self::" ++ Naming.upperCamel member.name ++ " => serde_json::json!("
      ++ Environment.literal .rust member.value.toValue ++ "),\n"

def enumForm : TypeForm Member where
  passes := [variantPass, valuePass]
  closing _ := "        \x7d\n    \x7d\n\x7d\n"

def typesForm : TypesForm where
  head _ package :=
    "// Code generated by sdkgen. DO NOT EDIT.\n// Source: " ++ package
      ++ "\n#![allow(unused_imports)]\n\nuse serde::\x7bDeserialize, Serialize\x7d;\n"
  record := recordForm
  enum := enumForm

theorem recordForm_showsParts : recordForm.ShowsParts := by
  refine ⟨List.cons_ne_nil _ _, ?_⟩
  exact List.forall_mem_singleton.mpr fun _ _ _ => append_ne_empty (by decide)

theorem enumForm_showsParts : enumForm.ShowsParts := by
  refine ⟨List.cons_ne_nil _ _, ?_⟩
  refine List.forall_mem_cons.mpr ⟨fun _ _ _ => append_ne_empty (by decide), ?_⟩
  exact List.forall_mem_singleton.mpr fun _ _ _ => append_ne_empty (by decide)

/-- The manifest of a package. -/
def cargo (sdk : Sdk) : String :=
  "[package]\nname = \"" ++ sdk.packageName ++ "\"\nversion = \"" ++ sdk.version
    ++ "\"\nedition = \"2021\"\ndescription = \"" ++ summary sdk
    ++ dependencies

def packageForm : PackageForm where
  client := clientForm
  types := typesForm
  clientPath _ := "src/client.rs"
  typesPath _ := "src/types.rs"
  additional sdk := [
    ("Cargo.toml", cargo sdk), ("src/lib.rs", libraryTemplate),
    ("src/jsonrpc.rs", transportTemplate)]

def environment : Environment :=
  withTemplates helpers clientTree typesTree

variable {template : String} {fuel : Nat}

section Client

variable {api : Api} {sdk : Sdk} {loop : Value} {m : Method}

theorem yields_result (line : Nat) :
    Yields (environment.setting template fuel) (methodScope api sdk loop m)
      (.choice line (.partOf line "method" "returns")
        (.applied line "rustType" (.partOf line "method" "returns"))
        (some (.literal (.str "()"))))
      (.str (((stated m.returns).map typeName).getD "()")) := by
  have result : Yields (environment.setting template fuel) (methodScope api sdk loop m)
      (.partOf line "method" "returns") (optionValue m.returns) := .part rfl rfl
  refine .choice result (holds_optionValue m.returns) ?_
  cases given : stated m.returns with
  | none => exact .literal _
  | some type =>
      have shown : Yields (environment.setting template fuel) (methodScope api sdk loop m)
          (.applied line "rustType" (.partOf line "method" "returns")) (.str (typeName type)) :=
        .helper rfl rfl (.given rfl rfl (stated_eq_some given))
      exact shown

/-- The template has one text for the end of a signature and the start of the map. -/
theorem closing_append (result : Option String) (rest : String) :
    ") -> Result<" ++ (result.getD "()"
        ++ (", JsonRpcError> \x7b\n        let params = json!(\x7b\n" ++ rest))
      = clientForm.closing result ++ (clientForm.mapOpening ++ rest) := by
  have joined : ", JsonRpcError> \x7b\n" ++ ("        let params = json!(\x7b\n" ++ rest)
      = ", JsonRpcError> \x7b\n        let params = json!(\x7b\n" ++ rest := by
    simp [← String.append_assoc]
  unfold clientForm
  rw [String.append_assoc, String.append_assoc, joined]

theorem writes_method (m : Method) (loop : Value) :
    Writes (environment.setting template fuel) (methodScope api sdk loop m) methodTree
      (clientForm.method api.resolvedModuleName m) := by
  refine .of_eq (.text <|
    .ifStated rfl rfl
      (fun text given => .shown (.docComment rfl rfl (.given rfl rfl given)) <| .text .nil)
      .nil <|
    .text <| .shown (.helper rfl rfl (.part rfl rfl)) <| .text <|
    .andThen (writes_declarations rfl rfl (fun _ _ => ⟨rfl, rfl⟩) 30) <| .text <|
    .shown (yields_result 30) <| .text <|
    .andThen (writes_entries rfl (fun _ _ => rfl) 32) <| .text <|
    .ifStated rfl rfl
      (fun type given => .text <| .shown (.part rfl rfl) <| .text .nil)
      (.text <| .shown (.part rfl rfl) <| .text .nil) <|
    .text .nil) ?_
  -- the template asks in several places what the routine has settled once
  rw [ClientForm.method, ClientForm.routine, closing_append]
  cases stated m.description <;> cases stated m.returns <;>
    simp [ClientForm.block, ClientForm.signature, ClientForm.parameterMap, ClientForm.argument,
      clientForm, typeName, parenthesized_cons, String.append_assoc, Function.comp_def]

theorem writes_client :
    Writes (environment.setting template fuel) (clientScope api sdk) clientTree
      (clientForm.client sdk api) := by
  refine .of_eq (.text <| .shown (.part rfl rfl) <| .text <| .shown (.part rfl rfl) <| .text <|
    .shown (.part rfl rfl) <| .text <| .shown (.part rfl rfl) <| .text <|
    .shown (.helper rfl rfl (.bound rfl)) <| .text <| .shown (.helper rfl rfl (.bound rfl)) <|
    .text <| .forEach rfl rfl rfl writes_method <| .text .nil) ?_
  simp [ClientForm.client, clientForm, heading, String.append_assoc]

end Client

section Types

variable {types : Types} {sdk : Sdk}

theorem writes_record (type : RecordType) (loop : Value) :
    Writes (environment.setting template fuel) (recordScope types sdk loop type) recordTree
      (recordForm.block type.name type.fields) := by
  have declared (field : Field) (rounds : Value) (last : Bool)
      (_ : rounds.part (.str "last") = .ok (.bool last)) :
      Writes (environment.setting template fuel) (fieldScope types sdk loop type rounds field)
        fieldTree (fieldPass.part type.name last field) := by
    refine .of_eq (.ifHolds rfl rfl
      (.text <| .shown (.part rfl rfl) <| .text .nil)
      (.text <| .shown (.part rfl rfl) <| .text .nil) <|
      .text <| .shown (.helper rfl rfl (.part rfl rfl)) <| .text <|
      writes_fieldType (by rfl) rfl 16 <| .text .nil) ?_
    unfold fieldPass
    simp [String.append_assoc]
  refine .of_eq (.text <| .shown (.helper rfl rfl (.part rfl rfl)) <| .text <|
    .forPart rfl rfl rfl declared .nil <| .text .nil) ?_
  unfold recordForm fieldPass
  simp [TypeForm.block, Pass.text, String.append_assoc]

theorem writes_enum (enum : EnumType) (loop : Value) :
    Writes (environment.setting template fuel) (enumScope types sdk loop enum) enumTree
      (enumForm.block enum.name enum.values) := by
  have listed (member : Member) (rounds : Value) (last : Bool)
      (_ : rounds.part (.str "last") = .ok (.bool last)) :
      Writes (environment.setting template fuel) (memberScope types sdk loop enum rounds member)
        variantTree (variantPass.part enum.name last member) :=
    .of_eq (.text <| .shown (.helper rfl rfl (.part rfl rfl)) <| .text .nil)
      (by unfold variantPass; simp [String.append_assoc])
  have valued (member : Member) (rounds : Value) (last : Bool)
      (_ : rounds.part (.str "last") = .ok (.bool last)) :
      Writes (environment.setting template fuel) (memberScope types sdk loop enum rounds member)
        valueTree (valuePass.part enum.name last member) :=
    .of_eq (.text <| .shown (.helper rfl rfl (.part rfl rfl)) <| .text <|
      .shown (.quoted rfl rfl (.part rfl rfl)) <| .text .nil)
      (by unfold valuePass; simp [String.append_assoc])
  refine .of_eq (.text <| .shown (.helper rfl rfl (.part rfl rfl)) <| .text <|
    .forPart rfl rfl rfl listed .nil <| .text <| .shown (.helper rfl rfl (.part rfl rfl)) <|
    .text <| .forPart rfl rfl rfl valued .nil <| .text .nil) ?_
  unfold enumForm variantPass valuePass
  simp [TypeForm.block, Pass.text, String.append_assoc]

theorem writes_types :
    Writes (environment.setting template fuel) (typesScope types sdk) typesTree
      (typesForm.source sdk types) := by
  refine .of_eq (.text <| .shown (.part rfl rfl) <| .text <|
    .forEach rfl rfl rfl writes_record <| .forEach rfl rfl rfl writes_enum .nil) ?_
  unfold TypesForm.source typesForm
  simp [String.append_assoc]

end Types

theorem writes_cargo {sdk : Sdk} :
    Writes (environment.setting template fuel) (manifestScope sdk) cargoTree (cargo sdk) :=
  .of_eq (.text <| .shown (.bound rfl) <| .text <| .shown (.bound rfl) <| .text <|
    .shown yields_summary <| .text .nil) (by unfold cargo; simp [String.append_assoc])

theorem paths_nodup {sdk : Sdk} : (packageForm.paths sdk).Nodup := by
  show ["src/client.rs", "src/types.rs", "Cargo.toml", "src/lib.rs", "src/jsonrpc.rs"].Nodup
  decide

theorem target_describes {sdk : Sdk} (valid : sdk.check = .ok ()) :
    ∃ t, target sdk = .ok t ∧ packageForm.Describes sdk t := by
  have environments : addTemplates language clientTemplate typesTemplate helpers
      = .ok environment := addTemplates_eq clientReading typesReading
  refine ⟨_, by rw [target, checkSdk_eq valid, ok_bind, environments]; rfl, ?_⟩
  exact {
    clientPath := rfl
    typesPath := rfl
    emitClient _ := emitClient_eq rfl writes_client
    emitTypes _ := emitTypes_eq rfl writes_types
    additional :=
      .cons ⟨rfl, emitAdditional_eq cargoReading (frameOf_manifest sdk ▸ writes_cargo)⟩ <|
      .cons ⟨rfl, emitAdditional_eq libraryReading (.of_eq (.text .nil) String.append_empty)⟩ <|
      .cons ⟨rfl, emitAdditional_eq transportReading (.of_eq (.text .nil) String.append_empty)⟩
      .nil
    distinct := paths_nodup }

end ClientGen.Target.Rust
