import ClientGen.Model.Check
import ClientGen.Proofs.Target.Emission
import ClientGen.Proofs.Text.LiteralRules

/-! # Names on the wire

A client tells the server names of the model: the path of the API, the names of its methods, and
the names of their parameters. Each of them stands in a literal of the client, as it is. Read by
the rules of the language, a literal denotes its name if and only if every character of the name
stands for itself there.
-/

namespace ClientGen.Target

open Text

/-- A piece of a source: code, or a literal that holds a name. -/
inductive Piece where
  | code (text : String)
  | name (text : String)

namespace Piece

def name? : Piece → Option String
  | code _ => none
  | name text => some text

def text (rules : LiteralRules) : Piece → String
  | code text => text
  | name text => rules.literal text

/-- The source that pieces make up. -/
def source (rules : LiteralRules) (pieces : List Piece) : String :=
  String.join (pieces.map (text rules))

variable {rules : LiteralRules}

@[simp] theorem source_nil : source rules [] = "" := rfl

@[simp] theorem source_cons (piece : Piece) (pieces : List Piece) :
    source rules (piece :: pieces) = piece.text rules ++ source rules pieces :=
  String.join_cons

@[simp] theorem source_append (pieces others : List Piece) :
    source rules (pieces ++ others) = source rules pieces ++ source rules others := by
  rw [source, List.map_append, String.join_append]
  rfl

theorem source_flatMap {α : Type} (xs : List α) (pieces : α → List Piece) :
    source rules (xs.flatMap pieces) = String.join (xs.map fun x => source rules (pieces x)) := by
  induction xs with
  | nil => rfl
  | cons x xs ih => rw [List.flatMap_cons, source_append, ih, List.map_cons, String.join_cons]

end Piece

/-- How the clients of a form hold the names of a model: each name in a literal, with code on
    either side. -/
structure WireForm where
  form : ClientForm
  rules : LiteralRules
  /-- The code before the path, which ends where the path is put behind the endpoint. -/
  pathOpening : Sdk → Heading → String
  pathClosing : Heading → String
  keyOpening : String
  keyClosing (identifier : String) : String
  callOpening (result : Option String) : String
  callClosing (result : Option String) : String
  head_eq (sdk : Sdk) (h : Heading) :
    form.head sdk h = pathOpening sdk h ++ rules.literal h.apiPath ++ pathClosing h
  entry_eq (a : Argument) :
    form.entry a = keyOpening ++ rules.literal a.key ++ keyClosing a.identifier
  call_eq (key : String) (result : Option String) :
    form.call key result = callOpening result ++ rules.literal key ++ callClosing result

namespace WireForm

variable (w : WireForm)

/-- The entry of a parameter in the map of a method. -/
def entryPieces (a : Argument) : List Piece :=
  [.code w.keyOpening, .name a.key, .code (w.keyClosing a.identifier)]

/-- The call of a method, and what becomes of the value. -/
def callPieces (r : Routine) : List Piece :=
  [.code (w.callOpening r.result), .name r.key, .code (w.callClosing r.result)]

/-- The code of a method before the entries of its map. -/
def preamble (moduleName : String) (r : Routine) : String :=
  "\n" ++ (r.description.map (w.form.comment r.identifier)).getD ""
    ++ w.form.signature moduleName r ++ (r.description.map w.form.docstring).getD ""
    ++ w.form.mapOpening

def methodPieces (moduleName : String) (m : Method) : List Piece :=
  let r := w.form.routine m.name m.params m.returns m.description
  .code (w.preamble moduleName r) :: r.arguments.flatMap w.entryPieces
    ++ .code w.form.mapClosing :: w.callPieces r ++ [.code w.form.ending]

/-- A client in pieces. -/
def pieces (sdk : Sdk) (api : Api) : List Piece :=
  [.code (w.pathOpening sdk (heading api)), .name api.apiPath, .code (w.pathClosing (heading api))]
    ++ api.methods.flatMap (w.methodPieces api.resolvedModuleName) ++ [.code w.form.foot]

theorem source_entryPieces (a : Argument) :
    Piece.source w.rules (w.entryPieces a) = w.form.entry a := by
  simp [entryPieces, Piece.text, w.entry_eq, String.append_assoc]

theorem source_callPieces (r : Routine) :
    Piece.source w.rules (w.callPieces r) = w.form.call r.key r.result := by
  simp [callPieces, Piece.text, w.call_eq, String.append_assoc]

theorem source_methodPieces (moduleName : String) (m : Method) :
    Piece.source w.rules (w.methodPieces moduleName m) = w.form.method moduleName m := by
  simp only [methodPieces, preamble, ClientForm.method, ClientForm.block, ClientForm.parameterMap,
    Piece.source_append, Piece.source_cons, Piece.source_nil, Piece.source_flatMap, Piece.text,
    source_entryPieces, source_callPieces, String.append_assoc, String.append_empty]

theorem source_pieces (sdk : Sdk) (api : Api) :
    Piece.source w.rules (w.pieces sdk api) = w.form.client sdk api := by
  simp only [pieces, ClientForm.client, w.head_eq, Piece.source_append, Piece.source_cons,
    Piece.source_nil, Piece.source_flatMap, Piece.text, source_methodPieces, String.append_assoc,
    String.append_empty]
  rfl

end WireForm

/-- The names that a client tells the server: the path of the API, and for each method the names
    of its parameters and its own. -/
def wireNames (api : Api) : List String :=
  api.apiPath :: api.methods.flatMap fun m => m.params.map (·.name) ++ [m.name]

namespace WireForm

variable (w : WireForm)

theorem names_methodPieces (moduleName : String) (m : Method) :
    (w.methodPieces moduleName m).filterMap Piece.name? = m.params.map (·.name) ++ [m.name] := by
  have entries (params : List Param) :
      ((params.map w.form.argument).flatMap w.entryPieces).filterMap Piece.name?
        = params.map (·.name) := by
    induction params with
    | nil => rfl
    | cons p rest ih =>
        rw [List.map_cons, List.flatMap_cons, List.filterMap_append, ih]
        rfl
  rw [methodPieces, List.filterMap_append, List.filterMap_append, List.filterMap_cons_none rfl]
  show ((m.params.map w.form.argument).flatMap w.entryPieces).filterMap Piece.name? ++ [m.name]
    ++ [] = _
  rw [entries, List.append_nil]

theorem names_pieces (sdk : Sdk) (api : Api) :
    (w.pieces sdk api).filterMap Piece.name? = wireNames api := by
  have methods (ms : List Method) :
      (ms.flatMap (w.methodPieces api.resolvedModuleName)).filterMap Piece.name?
        = ms.flatMap fun m => m.params.map (·.name) ++ [m.name] := by
    induction ms with
    | nil => rfl
    | cons m rest ih =>
        rw [List.flatMap_cons, List.flatMap_cons, List.filterMap_append, ih, names_methodPieces]
  rw [pieces, List.filterMap_append, List.filterMap_append, methods]
  show [api.apiPath] ++ _ ++ [] = _
  rw [List.append_nil]
  rfl

end WireForm

section Literals

variable (name : String)

theorem Dart.literal_eq : Text.Dart.singleQuoted.literal name = "'" ++ (name ++ "'") := by
  rw [LiteralRules.literal, String.append_assoc]
  rfl

theorem literal_of_double {rules : LiteralRules} (double : rules.quote = '"') :
    rules.literal name = "\"" ++ (name ++ "\"") := by
  rw [LiteralRules.literal, double, String.append_assoc]
  rfl

theorem Go.literal_eq : Text.Go.doubleQuoted.literal name = "\"" ++ (name ++ "\"") :=
  literal_of_double name rfl

theorem Python.literal_eq (named : String → Option Nat) :
    (Text.Python.doubleQuoted named).literal name = "\"" ++ (name ++ "\"") :=
  literal_of_double name rfl

theorem Rust.literal_eq : Text.Rust.doubleQuoted.literal name = "\"" ++ (name ++ "\"") :=
  literal_of_double name rfl

end Literals

def Dart.wireForm : WireForm where
  form := Dart.clientForm
  rules := Text.Dart.singleQuoted
  pathOpening _ h :=
    "// Code generated by sdkgen. DO NOT EDIT.\n// Source: " ++ h.package ++ " ("
      ++ h.apiVersion.name ++ clientImports ++ h.package ++ " API.\nclass "
      ++ Naming.upperCamel h.moduleName
      ++ "Client \x7b\n  final JsonRpcClient _rpc;\n\n  " ++ Naming.upperCamel h.moduleName
      ++ "Client(String endpoint)\n      : _rpc = JsonRpcClient(endpoint + "
  pathClosing _ :=
    ");\n\n  /// Closes the underlying HTTP client.\n  void close() => _rpc.close();\n"
  keyOpening := "      "
  keyClosing identifier := ": " ++ identifier ++ ",\n"
  callOpening
    | some type => "    return await _rpc.call<" ++ type ++ ">("
    | none => "    await _rpc.call<dynamic>("
  callClosing _ := ", params);\n"
  head_eq _ _ := by
    have opening : "Client(String endpoint)\n      : _rpc = JsonRpcClient(endpoint + '"
        = "Client(String endpoint)\n      : _rpc = JsonRpcClient(endpoint + " ++ "'" := rfl
    have closing :
        "');\n\n  /// Closes the underlying HTTP client.\n  void close() => _rpc.close();\n" = "'"
          ++ ");\n\n  /// Closes the underlying HTTP client.\n  void close() => _rpc.close();\n" :=
      rfl
    simp only [Dart.clientForm, Dart.literal_eq, opening, closing, String.append_assoc]
  entry_eq _ := by
    have opening : "      '" = "      " ++ "'" := rfl
    have closing : "': " = "'" ++ ": " := rfl
    simp only [Dart.clientForm, Dart.literal_eq, opening, closing, String.append_assoc]
  call_eq _ result := by
    have closing : "', params);\n" = "'" ++ ", params);\n" := rfl
    cases result with
    | none =>
        have opening : "    await _rpc.call<dynamic>('"
            = "    await _rpc.call<dynamic>(" ++ "'" := rfl
        simp only [Dart.clientForm, Dart.literal_eq, opening, closing, String.append_assoc]
    | some type =>
        have opening : ">('" = ">(" ++ "'" := rfl
        simp only [Dart.clientForm, Dart.literal_eq, opening, closing, String.append_assoc]

def Go.wireForm : WireForm where
  form := Go.clientForm
  rules := Text.Go.doubleQuoted
  pathOpening sdk h :=
    "// Code generated by sdkgen. DO NOT EDIT.\n// Source: " ++ h.package ++ " ("
      ++ h.apiVersion.name ++ ")\n\npackage " ++ sdk.packageName ++ clientImports
      ++ Naming.upperCamel h.moduleName ++ "Client calls the " ++ h.packageName ++ " API.\ntype "
      ++ Naming.upperCamel h.moduleName
      ++ "Client struct \x7b\n\trpc *JSONRPCClient\n\x7d\n\n// New"
      ++ Naming.upperCamel h.moduleName
      ++ "Client returns a client for the server at endpoint.\nfunc New"
      ++ Naming.upperCamel h.moduleName ++ "Client(endpoint string) *"
      ++ Naming.upperCamel h.moduleName ++ "Client \x7b\n\treturn &"
      ++ Naming.upperCamel h.moduleName
      ++ "Client\x7brpc: NewJSONRPCClient(strings.TrimRight(endpoint, \"/\") + "
  pathClosing _ := ")\x7d\n\x7d\n"
  keyOpening := "\t\t"
  keyClosing identifier := ": " ++ identifier ++ ",\n"
  callOpening
    | some type => "\tvar result " ++ type ++ "\n\terr := c.rpc.Call(ctx, "
    | none => "\treturn c.rpc.Call(ctx, "
  callClosing
    | some _ => ", params, &result)\n\treturn result, err\n"
    | none => ", params, nil)\n"
  head_eq _ _ := by
    have opening : "Client\x7brpc: NewJSONRPCClient(strings.TrimRight(endpoint, \"/\") + \""
        = "Client\x7brpc: NewJSONRPCClient(strings.TrimRight(endpoint, \"/\") + " ++ "\"" := rfl
    have closing : "\")\x7d\n\x7d\n" = "\"" ++ ")\x7d\n\x7d\n" := rfl
    simp only [Go.clientForm, Go.literal_eq, opening, closing, String.append_assoc]
  entry_eq _ := by
    have opening : "\t\t\"" = "\t\t" ++ "\"" := rfl
    have closing : "\": " = "\"" ++ ": " := rfl
    simp only [Go.clientForm, Go.literal_eq, opening, closing, String.append_assoc]
  call_eq _ result := by
    cases result with
    | none =>
        have opening : "\treturn c.rpc.Call(ctx, \"" = "\treturn c.rpc.Call(ctx, " ++ "\"" := rfl
        have closing : "\", params, nil)\n" = "\"" ++ ", params, nil)\n" := rfl
        simp only [Go.clientForm, Go.literal_eq, opening, closing, String.append_assoc]
    | some type =>
        have opening : "\n\terr := c.rpc.Call(ctx, \""
            = "\n\terr := c.rpc.Call(ctx, " ++ "\"" := rfl
        have closing : "\", params, &result)\n\treturn result, err\n"
            = "\"" ++ ", params, &result)\n\treturn result, err\n" := rfl
        simp only [Go.clientForm, Go.literal_eq, opening, closing, String.append_assoc]

def Python.wireForm (named : String → Option Nat) : WireForm where
  form := Python.clientForm
  rules := Text.Python.doubleQuoted named
  pathOpening _ h :=
    "# Code generated by sdkgen. DO NOT EDIT.\n# Source: " ++ h.package ++ " ("
      ++ h.apiVersion.name ++ clientImports
      ++ Naming.upperCamel h.moduleName ++ "Client:\n    \"\"\"Client for the " ++ h.package
      ++ " API.\"\"\"\n\n    def __init__(self, endpoint: str, timeout: float = 30.0) -> None:\n"
      ++ "        self._rpc = JsonRpcClient(endpoint.rstrip(\"/\") + "
  pathClosing _ := ", timeout=timeout)\n"
  keyOpening := "            "
  keyClosing identifier := ": " ++ identifier ++ ",\n"
  callOpening
    | some _ => "        return self._rpc.call("
    | none => "        self._rpc.call("
  callClosing _ := ", params)\n"
  head_eq _ _ := by
    have opening : initializer
        = " API.\"\"\"\n\n    def __init__(self, endpoint: str, timeout: float = 30.0) -> None:\n"
          ++ ("        self._rpc = JsonRpcClient(endpoint.rstrip(\"/\") + " ++ "\"") := rfl
    have closing : "\", timeout=timeout)\n" = "\"" ++ ", timeout=timeout)\n" := rfl
    simp only [Python.clientForm, Python.literal_eq, opening, closing, String.append_assoc]
  entry_eq _ := by
    have opening : "            \"" = "            " ++ "\"" := rfl
    have closing : "\": " = "\"" ++ ": " := rfl
    simp only [Python.clientForm, Python.literal_eq, opening, closing, String.append_assoc]
  call_eq _ result := by
    have closing : "\", params)\n" = "\"" ++ ", params)\n" := rfl
    cases result with
    | none =>
        have opening : "        self._rpc.call(\"" = "        self._rpc.call(" ++ "\"" := rfl
        simp only [Python.clientForm, Python.literal_eq, opening, closing,
          String.append_assoc]
    | some type =>
        have opening : "        return self._rpc.call(\""
            = "        return self._rpc.call(" ++ "\"" := rfl
        simp only [Python.clientForm, Python.literal_eq, opening, closing,
          String.append_assoc]

/-- The path is a constant, which the constructor of the client puts behind the endpoint. -/
def Rust.wireForm : WireForm where
  form := Rust.clientForm
  rules := Text.Rust.doubleQuoted
  pathOpening _ h :=
    "// Code generated by sdkgen. DO NOT EDIT.\n// Source: " ++ h.package ++ " ("
      ++ h.apiVersion.name ++ ")\n" ++ "#![allow(unused_imports)]\n\nuse serde_json::json;\n\n"
      ++ "use crate::jsonrpc::\x7bJsonRpcClient, JsonRpcError\x7d;\nuse crate::types::*;\n\n"
      ++ "const API_PATH: &str = "
  pathClosing h :=
    ";\n\n/// Client for the " ++ h.package ++ " API.\n#[derive(Debug, Clone)]\npub struct "
      ++ Naming.upperCamel h.moduleName
      ++ "Client \x7b\n    rpc: JsonRpcClient,\n\x7d\n\nimpl " ++ Naming.upperCamel h.moduleName
      ++ constructor
  keyOpening := "            "
  keyClosing identifier := ": " ++ identifier ++ ",\n"
  callOpening
    | some _ => "        self.rpc.call("
    | none => "        self.rpc.call::<serde_json::Value>("
  callClosing
    | some _ => ", params).await\n"
    | none => ", params).await?;\n        Ok(())\n"
  head_eq _ _ := by
    have opening : clientImports
        = ")\n" ++ ("#![allow(unused_imports)]\n\nuse serde_json::json;\n\n"
          ++ ("use crate::jsonrpc::\x7bJsonRpcClient, JsonRpcError\x7d;\nuse crate::types::*;\n\n"
          ++ ("const API_PATH: &str = " ++ "\""))) := rfl
    have closing : "\";\n\n/// Client for the " = "\"" ++ ";\n\n/// Client for the " := rfl
    simp only [Rust.clientForm, Rust.literal_eq, opening, closing, String.append_assoc]
  entry_eq _ := by
    have opening : "            \"" = "            " ++ "\"" := rfl
    have closing : "\": " = "\"" ++ ": " := rfl
    simp only [Rust.clientForm, Rust.literal_eq, opening, closing, String.append_assoc]
  call_eq _ result := by
    cases result with
    | none =>
        have opening : "        self.rpc.call::<serde_json::Value>(\""
            = "        self.rpc.call::<serde_json::Value>(" ++ "\"" := rfl
        have closing : "\", params).await?;\n        Ok(())\n"
            = "\"" ++ ", params).await?;\n        Ok(())\n" := rfl
        simp only [Rust.clientForm, Rust.literal_eq, opening, closing,
          String.append_assoc]
    | some type =>
        have opening : "        self.rpc.call(\"" = "        self.rpc.call(" ++ "\"" := rfl
        have closing : "\", params).await\n" = "\"" ++ ", params).await\n" := rfl
        simp only [Rust.clientForm, Rust.literal_eq, opening, closing,
          String.append_assoc]

/-- The wire forms of the built-in languages. Python looks names of characters up in `named`. -/
def wireForms (named : String → Option Nat) : List WireForm :=
  [Dart.wireForm, Python.wireForm named, Rust.wireForm, Go.wireForm]

theorem exists_wireForm (named : String → Option Nat) {form : PackageForm}
    (listed : form ∈ builtinForms) : ∃ w ∈ wireForms named, w.form = form.client := by
  have same : (wireForms named).map (·.form) = builtinForms.map (·.client) := rfl
  have mem := List.mem_map_of_mem (f := PackageForm.client) listed
  rw [← same] at mem
  exact List.mem_map.mp mem

/-- The names of a model stand in literals of the client, in order. A literal denotes its name if
    and only if every character of the name stands for itself. -/
theorem emitClient_names_iff {language : String} (known : language ∈ builtinLanguages)
    {sdk : Sdk} (valid : sdk.check = .ok ()) (named : String → Option Nat) :
    ∃ w ∈ wireForms named, w.form.language = language ∧
      ∃ target, builtin language sdk = .ok target ∧ ∀ api : Api,
        target.emitClient api = .ok (Piece.source w.rules (w.pieces sdk api)) ∧
        (w.pieces sdk api).filterMap Piece.name? = wireNames api ∧
        ∀ above name below, w.pieces sdk api = above ++ .name name :: below →
          (w.rules.read? (Piece.source w.rules (.name name :: below))
              = some (w.rules.encode name.toList, Piece.source w.rules below)
            ↔ w.rules.allPlain name.toList = true) := by
  obtain ⟨form, listed, rfl⟩ := exists_form known
  obtain ⟨target, built, describes⟩ := builtin_describes listed valid
  obtain ⟨w, held, same⟩ := exists_wireForm named listed
  refine ⟨w, held, by rw [same], target, built, fun api => ⟨?_, w.names_pieces sdk api, ?_⟩⟩
  · rw [describes.emitClient, w.source_pieces, same]
  · intro above name below _
    rw [Piece.source_cons]
    exact w.rules.read?_literal_iff name _

theorem emitClient_names_iff_rust :
    let api : Api := { package := "ledger", apiPath := "/it's $5", methods := [{ name := "Open" }] }
    "rust" ∈ builtinLanguages ∧ ({} : Sdk).check = .ok () ∧
      ∃ w ∈ wireForms fun _ => none, w.form.language = "rust" ∧
        ∃ target, builtin "rust" {} = .ok target ∧
          target.emitClient api = .ok (Piece.source w.rules (w.pieces {} api)) ∧
          wireNames api = ["/it's $5", "Open"] ∧
          ∃ above below, w.pieces {} api = above ++ .name "/it's $5" :: below ∧
            w.rules.read? (Piece.source w.rules (.name "/it's $5" :: below))
              = some (w.rules.encode "/it's $5".toList, Piece.source w.rules below) := by
  intro api
  have known : "rust" ∈ builtinLanguages := by decide
  obtain ⟨w, held, spoken, target, built, written⟩ :=
    emitClient_names_iff known Sdk.default_check fun _ => none
  obtain ⟨emitted, -, denoted⟩ := written api
  have plain : w.rules.allPlain "/it's $5".toList = true := by
    simp only [wireForms, List.mem_cons, List.not_mem_nil, or_false] at held
    obtain rfl | rfl | rfl | rfl := held
    · exact absurd spoken (by decide)
    · decide
    · decide
    · decide
  exact ⟨known, Sdk.default_check, w, held, spoken, target, built, emitted, rfl,
    [.code _], _, rfl, (denoted [.code _] _ _ rfl).mpr plain⟩

/-- A parameter whose name starts with a dollar sign. In Dart, its key interpolates. -/
theorem emitClient_names_interpolated :
    let api : Api := {
      package := "ledger"
      methods := [{ name := "List", params := [{ name := "$filter", typeName := "string" }] }] }
    (Check.api api "api.json").ok = true ∧
      ∃ target, builtin "dart" {} = .ok target ∧
        ∃ above below, Dart.wireForm.pieces {} api = above ++ .name "$filter" :: below ∧
          target.emitClient api
            = .ok (Piece.source Text.Dart.singleQuoted (above ++ .name "$filter" :: below)) ∧
          Text.Dart.singleQuoted.read?
              (Piece.source Text.Dart.singleQuoted (.name "$filter" :: below))
            ≠ some (Text.Dart.singleQuoted.encode "$filter".toList,
                Piece.source Text.Dart.singleQuoted below) := by
  intro api
  obtain ⟨target, built, describes⟩ := Dart.target_describes Sdk.default_check
  have split : Dart.wireForm.pieces {} api = (Dart.wireForm.pieces {} api).take 5
      ++ .name "$filter" :: (Dart.wireForm.pieces {} api).drop 6 := rfl
  refine ⟨by decide, target, built, _, _, split, ?_, ?_⟩
  · rw [← split, describes.emitClient]
    exact congrArg _ (Dart.wireForm.source_pieces {} api).symm
  · rw [Piece.source_cons]
    exact fun read => absurd ((LiteralRules.read?_literal_iff _ _ _).mp read) (by decide)

end ClientGen.Target
