import ClientGen.Proofs.Target.Dart.Trees

/-! # Dart sources

The form of Dart packages, and that the templates write packages of this form.
-/

namespace ClientGen.Target.Dart

open Template

def clientForm : ClientForm where
  language := language
  methodName := identifier
  paramName := paramName
  head _ h :=
    "// Code generated by sdkgen. DO NOT EDIT.\n// Source: " ++ h.package ++ " ("
      ++ h.apiVersion.name ++ clientImports ++ h.package ++ " API.\nclass "
      ++ Naming.upperCamel h.moduleName
      ++ "Client \x7b\n  final JsonRpcClient _rpc;\n\n  " ++ Naming.upperCamel h.moduleName
      ++ "Client(String endpoint)\n      : _rpc = JsonRpcClient(endpoint + '" ++ h.apiPath
      ++ "');\n\n  /// Closes the underlying HTTP client.\n  void close() => _rpc.close();\n"
  comment _ description := Naming.docComment description "  ///" ++ "\n"
  opening
    | _, some type, identifier => "  Future<" ++ type ++ "> " ++ identifier
    | _, none, identifier => "  Future<void> " ++ identifier
  receiver := []
  declaration a := a.type ++ " " ++ a.identifier
  closing _ := ") async \x7b\n"
  docstring _ := ""
  mapOpening := "    final params = <String, dynamic>\x7b\n"
  entry a := "      '" ++ a.key ++ "': " ++ a.identifier ++ ",\n"
  mapClosing := "    \x7d;\n"
  call
    | key, some type => "    return await _rpc.call<" ++ type ++ ">('" ++ key ++ "', params);\n"
    | key, none => "    await _rpc.call<dynamic>('" ++ key ++ "', params);\n"
  ending := "  \x7d\n"
  foot := "\x7d\n"

/-- The fields of a class. -/
def fieldPass : Pass Field where
  opening name := "\nclass " ++ Naming.upperCamel name ++ " \x7b\n"
  part _ _ field :=
    "  final " ++ fieldType field.typeName field.optional field.list ++ " "
      ++ identifier field.name ++ ";\n"

/-- The parameters of its constructor. -/
def constructorPass : Pass Field where
  opening name := "\n  const " ++ Naming.upperCamel name ++ "(\x7b\n"
  part _ _ field :=
    "    " ++ (if field.optional then "" else "required ") ++ "this." ++ identifier field.name
      ++ ",\n"

/-- The entries of its JSON object. -/
def jsonPass : Pass Field where
  opening _ := "  \x7d);\n\n  Map<String, dynamic> toJson() => <String, dynamic>\x7b\n"
  part _ _ field := "        '" ++ field.name ++ "': " ++ identifier field.name ++ ",\n"

/-- The members of an enumeration, which a semicolon ends. -/
def memberPass : Pass Member where
  opening name := "\nenum " ++ Naming.upperCamel name ++ " \x7b\n"
  part _ last member :=
    "  " ++ identifier member.name ++ "(" ++ Environment.literal .dart member.value.toValue ++ ")"
      ++ (if last then ";" else ",") ++ "\n"

def recordForm : TypeForm Field where
  passes := [fieldPass, constructorPass, jsonPass]
  closing _ := "      \x7d;\n\x7d\n"

def enumForm : TypeForm Member where
  passes := [memberPass]
  closing name :=
    "\n  final Object value;\n\n  const " ++ Naming.upperCamel name ++ "(this.value);\n\x7d\n"

def typesForm : TypesForm where
  head _ package :=
    "// Code generated by sdkgen. DO NOT EDIT.\n// Source: " ++ package
      ++ "\n\nimport 'dart:typed_data';\n"
  record := recordForm
  enum := enumForm

theorem recordForm_showsParts : recordForm.ShowsParts := by
  refine ⟨List.cons_ne_nil _ _, ?_⟩
  refine List.forall_mem_cons.mpr ⟨fun _ _ _ => append_ne_empty (by decide), ?_⟩
  refine List.forall_mem_cons.mpr ⟨fun _ _ _ => append_ne_empty (by decide), ?_⟩
  exact List.forall_mem_singleton.mpr fun _ _ _ => append_ne_empty (by decide)

theorem enumForm_showsParts : enumForm.ShowsParts := by
  refine ⟨List.cons_ne_nil _ _, ?_⟩
  exact List.forall_mem_singleton.mpr fun _ _ _ => append_ne_empty (by decide)

/-- The manifest of a package. -/
def pubspec (sdk : Sdk) : String :=
  "name: " ++ sdk.packageName ++ "\ndescription: " ++ summary sdk ++ "\nversion: " ++ sdk.version
    ++ pubspecEnd

def packageForm : PackageForm where
  client := clientForm
  types := typesForm
  clientPath sdk := "lib/" ++ sdk.packageName ++ "_client.dart"
  typesPath _ := "lib/types.dart"
  additional sdk := [
    ("pubspec.yaml", pubspec sdk), ("lib/src/json_rpc_client.dart", transportTemplate)]

def environment : Environment :=
  withTemplates helpers clientTree typesTree

variable {template : String} {fuel : Nat}

section Client

variable {api : Api} {sdk : Sdk} {loop : Value} {m : Method}

theorem writes_parameters (line : Nat) :
    Writes (environment.setting template fuel) (methodScope api sdk loop m)
      [.forPart line "p" "method" "params" (parameterTree line) []]
      (", ".intercalate (m.params.map fun p =>
        clientForm.declaration (clientForm.argument p))) := by
  have round (p : Param) (rounds : Value) (last : Bool)
      (known : rounds.part (.str "last") = .ok (.bool last)) :
      Writes (environment.setting template fuel) (paramScope api sdk loop m rounds p)
        (parameterTree line)
        (clientForm.declaration (clientForm.argument p) ++ if last then "" else ", ") := by
    refine .of_eq (.shown (.helper rfl rfl (.part rfl rfl)) <| .text <|
      .shown (.helper rfl rfl (.part rfl rfl)) <|
      .shown (.pick (.negated (.last rfl known))) .nil) ?_
    cases last <;> simp [clientForm, ClientForm.argument, typeName, String.append_assoc]
  refine .of_eq (.forPart rfl rfl rfl round .nil .nil) ?_
  rw [ite_joinRounds, joinRounds_eq_intercalate, String.append_empty]

theorem writes_method (m : Method) (loop : Value) :
    Writes (environment.setting template fuel) (methodScope api sdk loop m) methodTree
      (clientForm.method api.resolvedModuleName m) := by
  refine .of_eq (.text <|
    .ifStated rfl rfl
      (fun text given => .shown (.docComment rfl rfl (.given rfl rfl given)) <| .text .nil)
      .nil <|
    .ifStated rfl rfl
      (fun type given => .text <| .shown (.helper rfl rfl (.given rfl rfl given)) <| .text <|
        .shown (.helper rfl rfl (.part rfl rfl)) <| .text <|
        .andThen (writes_parameters 24) <| .text .nil)
      (.text <| .shown (.helper rfl rfl (.part rfl rfl)) <| .text <|
        .andThen (writes_parameters 26) <| .text .nil) <|
    .text <| .andThen (writes_entries rfl (fun _ _ => rfl) 29) <| .text <|
    .ifStated rfl rfl
      (fun type given => .text <| .shown (.helper rfl rfl (.given rfl rfl given)) <| .text <|
        .shown (.part rfl rfl) <| .text .nil)
      (.text <| .shown (.part rfl rfl) <| .text .nil) <|
    .text .nil) ?_
  -- the template asks in several places what the routine has settled once
  rw [ClientForm.method, ClientForm.routine]
  cases stated m.description <;> cases stated m.returns <;>
    simp [ClientForm.block, ClientForm.signature, ClientForm.parameterMap, ClientForm.argument,
      clientForm, typeName, String.append_assoc, Function.comp_def]

theorem writes_client :
    Writes (environment.setting template fuel) (clientScope api sdk) clientTree
      (clientForm.client sdk api) := by
  refine .of_eq (.text <| .shown (.part rfl rfl) <| .text <| .shown (.part rfl rfl) <| .text <|
    .shown (.part rfl rfl) <| .text <| .shown (.helper rfl rfl (.bound rfl)) <| .text <|
    .shown (.helper rfl rfl (.bound rfl)) <| .text <| .shown (.part rfl rfl) <| .text <|
    .forEach rfl rfl rfl writes_method <| .text .nil) ?_
  simp [ClientForm.client, clientForm, heading, String.append_assoc]

end Client

section Types

variable {types : Types} {sdk : Sdk}

theorem writes_record (type : RecordType) (loop : Value) :
    Writes (environment.setting template fuel) (recordScope types sdk loop type) recordTree
      (recordForm.block type.name type.fields) := by
  have declared (field : Field) (rounds : Value) (last : Bool)
      (_ : rounds.part (.str "last") = .ok (.bool last)) :
      Writes (environment.setting template fuel) (fieldScope types sdk loop type rounds field)
        fieldTree (fieldPass.part type.name last field) :=
    .of_eq (.text <| writes_fieldType (by rfl) rfl 9 <| .text <|
      .shown (.helper rfl rfl (.part rfl rfl)) <| .text .nil)
      (by simp [fieldPass, String.append_assoc])
  have constructed (field : Field) (rounds : Value) (last : Bool)
      (_ : rounds.part (.str "last") = .ok (.bool last)) :
      Writes (environment.setting template fuel) (fieldScope types sdk loop type rounds field)
        constructorTree (constructorPass.part type.name last field) :=
    .of_eq (.text <| .shown (.pick (.part rfl rfl)) <| .text <|
      .shown (.helper rfl rfl (.part rfl rfl)) <| .text .nil)
      (by simp [constructorPass, String.append_assoc])
  have encoded (field : Field) (rounds : Value) (last : Bool)
      (_ : rounds.part (.str "last") = .ok (.bool last)) :
      Writes (environment.setting template fuel) (fieldScope types sdk loop type rounds field)
        jsonTree (jsonPass.part type.name last field) :=
    .of_eq (.text <| .shown (.part rfl rfl) <| .text <|
      .shown (.helper rfl rfl (.part rfl rfl)) <| .text .nil)
      (by simp [jsonPass, String.append_assoc])
  refine .of_eq (.text <| .shown (.helper rfl rfl (.part rfl rfl)) <| .text <|
    .forPart rfl rfl rfl declared .nil <| .text <| .shown (.helper rfl rfl (.part rfl rfl)) <|
    .text <| .forPart rfl rfl rfl constructed .nil <| .text <|
    .forPart rfl rfl rfl encoded .nil <| .text .nil) ?_
  simp [recordForm, TypeForm.block, Pass.text, fieldPass, constructorPass, jsonPass,
    String.append_assoc]

theorem writes_enum (enum : EnumType) (loop : Value) :
    Writes (environment.setting template fuel) (enumScope types sdk loop enum) enumTree
      (enumForm.block enum.name enum.values) := by
  have listed (member : Member) (rounds : Value) (last : Bool)
      (known : rounds.part (.str "last") = .ok (.bool last)) :
      Writes (environment.setting template fuel) (memberScope types sdk loop enum rounds member)
        memberTree (memberPass.part enum.name last member) :=
    .of_eq (.text <| .shown (.helper rfl rfl (.part rfl rfl)) <| .text <|
      .shown (.quoted rfl rfl (.part rfl rfl)) <| .text <| .shown (.pick (.last rfl known)) <|
      .text .nil)
      (by simp [memberPass, String.append_assoc])
  refine .of_eq (.text <| .shown (.helper rfl rfl (.part rfl rfl)) <| .text <|
    .forPart rfl rfl rfl listed .nil <| .text <| .shown (.helper rfl rfl (.part rfl rfl)) <|
    .text .nil) ?_
  simp [enumForm, TypeForm.block, Pass.text, memberPass, String.append_assoc]

theorem writes_types :
    Writes (environment.setting template fuel) (typesScope types sdk) typesTree
      (typesForm.source sdk types) := by
  refine .of_eq (.text <| .shown (.part rfl rfl) <| .text <|
    .forEach rfl rfl rfl writes_record <| .forEach rfl rfl rfl writes_enum .nil) ?_
  unfold TypesForm.source typesForm
  simp [String.append_assoc]

end Types

theorem writes_pubspec {sdk : Sdk} :
    Writes (environment.setting template fuel) (manifestScope sdk) pubspecTree (pubspec sdk) :=
  .of_eq (.text <| .shown (.bound rfl) <| .text <| .shown yields_summary <| .text <|
    .shown (.bound rfl) <| .text .nil) (by unfold pubspec; simp [String.append_assoc])

/-- A package name is too long for the other files of its directory, or has no slash. -/
theorem paths_nodup {sdk : Sdk} (valid : sdk.check = .ok ()) : (packageForm.paths sdk).Nodup := by
  have longer (path : String) (short : path.length < 16) :
      "lib/" ++ sdk.packageName ++ "_client.dart" ≠ path := by
    intro same
    have start : "lib/".length = 4 := by decide
    have ending : "_client.dart".length = 12 := by decide
    have total := congrArg String.length same
    rw [String.length_append, String.length_append] at total
    omega
  have inside : "lib/" ++ sdk.packageName ++ "_client.dart" ≠ "lib/src/json_rpc_client.dart" := by
    intro same
    have split : "lib/src/json_rpc_client.dart" = "lib/" ++ "src/json_rpc" ++ "_client.dart" := by
      decide
    rw [split, String.append_left_inj, String.append_right_inj] at same
    exact Sdk.slash_not_mem valid (by simp [same])
  simp [PackageForm.paths, packageForm, inside, longer "lib/types.dart" (by decide),
    longer "pubspec.yaml" (by decide)]

theorem target_describes {sdk : Sdk} (valid : sdk.check = .ok ()) :
    ∃ t, target sdk = .ok t ∧ packageForm.Describes sdk t := by
  have environments : addTemplates language clientTemplate typesTemplate helpers
      = .ok environment := addTemplates_eq clientReading typesReading
  refine ⟨_, by rw [target, checkSdk_eq valid, ok_bind, environments]; rfl, ?_⟩
  exact {
    clientPath := rfl
    typesPath := rfl
    emitClient _ := emitClient_eq rfl writes_client
    emitTypes _ := emitTypes_eq rfl writes_types
    additional :=
      .cons ⟨rfl, emitAdditional_eq pubspecReading (frameOf_manifest sdk ▸ writes_pubspec)⟩ <|
      .cons ⟨rfl, emitAdditional_eq transportReading (.of_eq (.text .nil) String.append_empty)⟩
      .nil
    distinct := paths_nodup valid }

end ClientGen.Target.Dart
