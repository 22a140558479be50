import ClientGen.Proofs.Model.Check
import ClientGen.Proofs.Target.Emission
import ClientGen.Proofs.Target.Fragments
import ClientGen.Proofs.Target.Identifiers

/-! # Members of clients

A client declares the members of its template, fields and constructors included, and one method for
each method of the API, which is called by the name that the language makes of it. The check of an
API compares the names as they are given, so methods are different if names are that become
different; names that follow one convention do. A method takes a member of the template only by one
of a few names, or by being called as its class.
-/

namespace ClientGen.Target

/-- How the clients of a form declare their members. -/
structure MemberForm where
  form : ClientForm
  /-- Everything before the methods, with the members of the template. -/
  head (sdk : Sdk) (h : Heading) : List Fragment
  /-- What a method is introduced with, up to its name. -/
  introducer (moduleName : String) (result : Option String) : String
  /-- The members of the template. -/
  own (h : Heading) : List String
  /-- The one that is called as the class, if there is one. -/
  constructor? (h : Heading) : Option String
  /-- The names that become those of the other ones. -/
  taken : List String
  head_eq (sdk : Sdk) (h : Heading) : form.head sdk h = Fragment.source (head sdk h)
  opening_eq (moduleName : String) (result : Option String) (identifier : String) :
    form.opening moduleName result identifier = introducer moduleName result ++ identifier
  declared_head (sdk : Sdk) (h : Heading) : Fragment.declared (head sdk h) = own h
  mem_own_iff (h : Heading) (name : String) : form.methodName name ∈ own h ↔
    name ∈ taken ∨ constructor? h = some (form.methodName name)
  lowerCamel_methodName (h : Heading) (name : String) : constructor? h = some (form.methodName name) →
    Naming.lowerCamel (form.methodName name) = form.methodName name

namespace MemberForm

variable (w : MemberForm)

/-- The fragments of a method: what stands before its name, its name, and what is behind it. -/
def method (moduleName : String) (m : Method) : List Fragment :=
  let r := w.form.routine m.name m.params m.returns m.description
  [.code ("\n" ++ (r.description.map (w.form.comment r.identifier)).getD ""
      ++ w.introducer moduleName r.result),
    .name r.identifier,
    .code ("(" ++ ", ".intercalate (w.form.receiver ++ r.arguments.map w.form.declaration)
      ++ w.form.closing r.result ++ (r.description.map w.form.docstring).getD ""
      ++ w.form.parameterMap r ++ w.form.call r.key r.result ++ w.form.ending)]

/-- A client in fragments. -/
def client (sdk : Sdk) (api : Api) : List Fragment :=
  w.head sdk (heading api) ++ api.methods.flatMap (w.method api.resolvedModuleName)
    ++ [.code w.form.foot]

/-- The names that methods get. -/
def methodNames (api : Api) : List String :=
  api.methods.map fun m => w.form.methodName m.name

theorem source_method (moduleName : String) (m : Method) :
    Fragment.source (w.method moduleName m) = w.form.method moduleName m := by
  simp only [method, ClientForm.method, ClientForm.block, ClientForm.signature, w.opening_eq,
    Fragment.source_code, Fragment.source_name, Fragment.source_nil, String.append_assoc,
    String.append_empty]

theorem source_client (sdk : Sdk) (api : Api) :
    Fragment.source (w.client sdk api) = w.form.client sdk api := by
  rw [client, ClientForm.client, w.head_eq, Fragment.source_append, Fragment.source_append,
    Fragment.source_flatMap fun m _ => w.source_method _ m, Fragment.source_code,
    Fragment.source_nil, String.append_empty]

theorem declared_client (sdk : Sdk) (api : Api) :
    Fragment.declared (w.client sdk api) = w.own (heading api) ++ w.methodNames api := by
  have methods : Fragment.declared (api.methods.flatMap (w.method api.resolvedModuleName))
      = api.methods.flatMap fun m => [w.form.methodName m.name] :=
    Fragment.declared_flatMap fun _ _ => rfl
  rw [client, Fragment.declared_append, Fragment.declared_append, w.declared_head, methods,
    Fragment.declared_code, Fragment.declared_nil, List.append_nil, methodNames,
    List.map_eq_flatMap]

end MemberForm

def Dart.className (h : Heading) : String :=
  Naming.upperCamel h.moduleName ++ "Client"

def Dart.memberForm : MemberForm where
  form := Dart.clientForm
  head _ h := [
    .code ("// Code generated by sdkgen. DO NOT EDIT.\n// Source: " ++ h.package ++ " ("
      ++ h.apiVersion.name ++ clientImports ++ h.package ++ " API.\nclass "
      ++ Naming.upperCamel h.moduleName ++ "Client \x7b\n  final JsonRpcClient "),
    .name "_rpc",
    .code ";\n\n  ",
    .name (Dart.className h),
    .code ("(String endpoint)\n      : _rpc = JsonRpcClient(endpoint + '" ++ h.apiPath
      ++ "');\n\n  /// Closes the underlying HTTP client.\n  void "),
    .name "close",
    .code "() => _rpc.close();\n"]
  introducer
    | _, some type => "  Future<" ++ type ++ "> "
    | _, none => "  Future<void> "
  own h := ["_rpc", Dart.className h, "close"]
  constructor? h := some (Dart.className h)
  taken := ["_rpc", "close", "Close"]
  head_eq _ h := by
    have field : "Client \x7b\n  final JsonRpcClient _rpc;\n\n  "
        = "Client \x7b\n  final JsonRpcClient " ++ ("_rpc" ++ ";\n\n  ") := rfl
    have called : "Client(String endpoint)\n      : _rpc = JsonRpcClient(endpoint + '"
        = "Client" ++ "(String endpoint)\n      : _rpc = JsonRpcClient(endpoint + '" := rfl
    have closing :
        "');\n\n  /// Closes the underlying HTTP client.\n  void close() => _rpc.close();\n"
          = "');\n\n  /// Closes the underlying HTTP client.\n  void "
            ++ ("close" ++ "() => _rpc.close();\n") := rfl
    simp only [Dart.clientForm, Dart.className, field, called, closing, Fragment.source_code,
      Fragment.source_name, Fragment.source_nil, String.append_assoc, String.append_empty]
  opening_eq _ result _ := by cases result <;> rfl
  declared_head _ _ := rfl
  mem_own_iff h name := by
    have field := Dart.identifier_eq_rpc_iff name
    have closing := Dart.identifier_eq_close_iff name
    simp only [Dart.clientForm, List.mem_cons, List.not_mem_nil, or_false, Option.some.injEq,
      field, closing, eq_comm (a := Dart.className h)]
    tauto
  lowerCamel_methodName _ _ _ := Dart.lowerCamel_identifier

/-- The function that makes a client stands next to its type, and is no member of it. -/
def Go.memberForm : MemberForm where
  form := Go.clientForm
  head sdk h := [
    .code ("// Code generated by sdkgen. DO NOT EDIT.\n// Source: " ++ h.package ++ " ("
      ++ h.apiVersion.name ++ ")\n\npackage " ++ sdk.packageName ++ clientImports
      ++ Naming.upperCamel h.moduleName ++ "Client calls the " ++ h.packageName ++ " API.\ntype "
      ++ Naming.upperCamel h.moduleName ++ "Client struct \x7b\n\t"),
    .name "rpc",
    .code (" *JSONRPCClient\n\x7d\n\n// New"
      ++ Naming.upperCamel h.moduleName
      ++ "Client returns a client for the server at endpoint.\nfunc New"
      ++ Naming.upperCamel h.moduleName ++ "Client(endpoint string) *"
      ++ Naming.upperCamel h.moduleName ++ "Client \x7b\n\treturn &"
      ++ Naming.upperCamel h.moduleName
      ++ "Client\x7brpc: NewJSONRPCClient(strings.TrimRight(endpoint, \"/\") + \""
      ++ h.apiPath ++ "\")\x7d\n\x7d\n")]
  introducer moduleName _ := "func (c *" ++ Naming.upperCamel moduleName ++ "Client) "
  own _ := ["rpc"]
  constructor? _ := none
  taken := []
  head_eq _ _ := by
    have field : "Client struct \x7b\n\trpc *JSONRPCClient\n\x7d\n\n// New"
        = "Client struct \x7b\n\t" ++ ("rpc" ++ " *JSONRPCClient\n\x7d\n\n// New") := rfl
    simp only [Go.clientForm, field, Fragment.source_code, Fragment.source_name,
      Fragment.source_nil, String.append_assoc, String.append_empty]
  opening_eq _ _ _ := rfl
  declared_head _ _ := rfl
  mem_own_iff _ name := by
    have free : ¬Go.clientForm.methodName name = "rpc" := Go.upperCamel_ne_rpc
    simp [free]
  lowerCamel_methodName _ _ := nofun

def Python.memberForm : MemberForm where
  form := Python.clientForm
  head _ h := [
    .code ("# Code generated by sdkgen. DO NOT EDIT.\n# Source: " ++ h.package ++ " ("
      ++ h.apiVersion.name ++ clientImports
      ++ Naming.upperCamel h.moduleName ++ "Client:\n    \"\"\"Client for the " ++ h.package
      ++ " API.\"\"\"\n\n    def "),
    .name "__init__",
    .code "(self, endpoint: str, timeout: float = 30.0) -> None:\n        self.",
    .name "_rpc",
    .code (" = JsonRpcClient(endpoint.rstrip(\"/\") + \"" ++ h.apiPath
      ++ "\", timeout=timeout)\n")]
  introducer _ _ := "    def "
  own _ := ["__init__", "_rpc"]
  constructor? _ := none
  taken := ["__init__", "_Init__", "_rpc"]
  head_eq _ _ := by
    have initializer_eq : initializer = " API.\"\"\"\n\n    def " ++ ("__init__"
        ++ ("(self, endpoint: str, timeout: float = 30.0) -> None:\n        self."
          ++ ("_rpc" ++ " = JsonRpcClient(endpoint.rstrip(\"/\") + \""))) := rfl
    simp only [Python.clientForm, initializer_eq, Fragment.source_code, Fragment.source_name,
      Fragment.source_nil, String.append_assoc, String.append_empty]
  opening_eq _ _ _ := rfl
  declared_head _ _ := rfl
  mem_own_iff _ name := by
    have initial := Python.identifier_eq_init_iff name
    have field := Python.identifier_eq_rpc_iff name
    simp only [Python.clientForm, List.mem_cons, List.not_mem_nil, or_false, reduceCtorEq, initial,
      field, or_assoc]
  lowerCamel_methodName _ _ := nofun

def Rust.memberForm : MemberForm where
  form := Rust.clientForm
  head _ h := [
    .code ("// Code generated by sdkgen. DO NOT EDIT.\n// Source: " ++ h.package ++ " ("
      ++ h.apiVersion.name ++ clientImports ++ h.apiPath ++ "\";\n\n/// Client for the "
      ++ h.package ++ " API.\n#[derive(Debug, Clone)]\npub struct "
      ++ Naming.upperCamel h.moduleName ++ "Client \x7b\n    "),
    .name "rpc",
    .code (": JsonRpcClient,\n\x7d\n\nimpl " ++ Naming.upperCamel h.moduleName
      ++ "Client \x7b\n    pub fn "),
    .name "new",
    .code ("(endpoint: &str) -> Self \x7b\n"
      ++ "        let url = format!(\"\x7b\x7d\x7b\x7d\", "
      ++ "endpoint.trim_end_matches('/'), API_PATH);\n"
      ++ "        Self \x7b\n            rpc: JsonRpcClient::new(url),\n"
      ++ "        \x7d\n    \x7d\n")]
  introducer _ _ := "    pub async fn "
  own _ := ["rpc", "new"]
  constructor? _ := none
  taken := ["rpc", "Rpc", "new", "New"]
  head_eq _ _ := by
    have field : "Client \x7b\n    rpc: JsonRpcClient,\n\x7d\n\nimpl "
        = "Client \x7b\n    " ++ ("rpc" ++ ": JsonRpcClient,\n\x7d\n\nimpl ") := rfl
    have constructor_eq : constructor = "Client \x7b\n    pub fn " ++ ("new"
        ++ ("(endpoint: &str) -> Self \x7b\n"
          ++ ("        let url = format!(\"\x7b\x7d\x7b\x7d\", "
            ++ ("endpoint.trim_end_matches('/'), API_PATH);\n"
              ++ ("        Self \x7b\n            rpc: JsonRpcClient::new(url),\n"
                ++ "        \x7d\n    \x7d\n"))))) := by
      decide +kernel
    simp only [Rust.clientForm, field, constructor_eq, Fragment.source_code, Fragment.source_name,
      Fragment.source_nil, String.append_assoc, String.append_empty]
  opening_eq _ _ _ := rfl
  declared_head _ _ := rfl
  mem_own_iff _ name := by
    have field := Rust.identifier_eq_rpc_iff name
    have constructed := Rust.identifier_eq_new_iff name
    simp only [Rust.clientForm, List.mem_cons, List.not_mem_nil, or_false, reduceCtorEq, field,
      constructed, or_assoc]
  lowerCamel_methodName _ _ := nofun

/-- The member forms of the built-in languages. -/
def memberForms : List MemberForm :=
  [Dart.memberForm, Python.memberForm, Rust.memberForm, Go.memberForm]

theorem exists_memberForm {form : PackageForm} (listed : form ∈ builtinForms) :
    ∃ w ∈ memberForms, w.form = form.client := by
  have same : memberForms.map (·.form) = builtinForms.map (·.client) := rfl
  have mem := List.mem_map_of_mem (f := PackageForm.client) listed
  rw [← same] at mem
  exact List.mem_map.mp mem

section Names

variable {w : MemberForm} {style : Naming.Style} {api : Api} {a b name : String}

theorem methodName_inj (known : w ∈ memberForms) (ha : style.Follows a) (hb : style.Follows b)
    (same : w.form.methodName a = w.form.methodName b) : a = b := by
  simp only [memberForms, List.mem_cons, List.not_mem_nil, or_false] at known
  obtain rfl | rfl | rfl | rfl := known
  · exact Dart.identifier_inj ha hb same
  · exact Python.identifier_inj ha hb same
  · exact Rust.identifier_inj ha hb same
  · exact Naming.upperCamel_inj ha hb same

theorem MemberForm.nodup_methodNames_iff (usable : Check.UsableApi api) :
    (w.methodNames api).Nodup ↔ ∀ m ∈ api.methods, ∀ m' ∈ api.methods,
      w.form.methodName m.name = w.form.methodName m'.name → m.name = m'.name := by
  have named : w.methodNames api = (api.methods.map (·.name)).map w.form.methodName := by
    rw [List.map_map]
    rfl
  rw [named, List.nodup_map_iff_inj_on usable.methods.2]
  simp only [List.forall_mem_map]

theorem MemberForm.disjoint_own_iff (w : MemberForm) (api : Api) :
    (w.own (heading api)).Disjoint (w.methodNames api) ↔ ∀ m ∈ api.methods,
      m.name ∉ w.taken ∧ w.constructor? (heading api) ≠ some (w.form.methodName m.name) := by
  simp only [ne_eq, ← not_or, ← w.mem_own_iff]
  refine ⟨fun apart m mem own => apart own (List.mem_map_of_mem mem), ?_⟩
  rintro free name own mem
  obtain ⟨m, there, rfl⟩ := List.mem_map.mp mem
  exact free m there own

end Names

/-- A client declares the members of its template and then a method for each method of the API.
    If the API is accepted, methods are declared twice if and only if two of its names become one,
    which those that follow one convention do not. A method takes a member of the template if and
    only if it has one of a few names or is called as its class, which no method is if the class
    starts with a capital. -/
theorem emitClient_members {language : String} (known : language ∈ builtinLanguages) {sdk : Sdk}
    (valid : sdk.check = .ok ()) :
    ∃ w ∈ memberForms, w.form.language = language ∧
      ∃ target, builtin language sdk = .ok target ∧
        ∀ api file, (Check.api api file).ok = true →
          target.emitClient api = .ok (Fragment.source (w.client sdk api)) ∧
          Fragment.declared (w.client sdk api) = w.own (heading api) ++ w.methodNames api ∧
          ((w.methodNames api).Nodup ↔ ∀ m ∈ api.methods, ∀ m' ∈ api.methods,
            w.form.methodName m.name = w.form.methodName m'.name → m.name = m'.name) ∧
          (∀ style : Naming.Style, (∀ m ∈ api.methods, style.Follows m.name) →
            (w.methodNames api).Nodup) ∧
          ((w.own (heading api)).Disjoint (w.methodNames api) ↔ ∀ m ∈ api.methods,
            m.name ∉ w.taken ∧
              w.constructor? (heading api) ≠ some (w.form.methodName m.name)) ∧
          ∀ type, w.constructor? (heading api) = some type → Naming.lowerCamel type ≠ type →
            type ∉ w.methodNames api := by
  obtain ⟨form, listed, rfl⟩ := exists_form known
  obtain ⟨target, built, describes⟩ := builtin_describes listed valid
  obtain ⟨w, held, same⟩ := exists_memberForm listed
  refine ⟨w, held, by rw [same], target, built, fun api file accepted => ?_⟩
  have usable := Check.ok_api_iff.mp accepted
  refine ⟨?_, w.declared_client sdk api, w.nodup_methodNames_iff usable, fun style follows => ?_,
    w.disjoint_own_iff api, fun type made capital mem => ?_⟩
  · rw [describes.emitClient, w.source_client, same]
  · refine (w.nodup_methodNames_iff usable).mpr fun m mem m' mem' => ?_
    exact methodName_inj held (follows m mem) (follows m' mem')
  · obtain ⟨m, there, rfl⟩ := List.mem_map.mp mem
    exact capital (w.lowerCamel_methodName _ m.name made)

theorem emitClient_members_dart :
    let api : Api := { package := "ledger", methods := [{ name := "Open" }, { name := "Seal" }] }
    "dart" ∈ builtinLanguages ∧ ({} : Sdk).check = .ok () ∧
      (Check.api api "api.json").ok = true ∧
      ∃ w ∈ memberForms, w.form.language = "dart" ∧ ∃ target, builtin "dart" {} = .ok target ∧
        target.emitClient api = .ok (Fragment.source (w.client {} api)) ∧
        (w.methodNames api).Nodup ∧ "LedgerClient" ∉ w.methodNames api ∧
        (w.own (heading api)).Disjoint (w.methodNames api) := by
  intro api
  have known : "dart" ∈ builtinLanguages := by decide
  have accepted : (Check.api api "api.json").ok = true := by decide
  obtain ⟨w, held, spoken, target, built, written⟩ := emitClient_members known Sdk.default_check
  obtain ⟨emitted, -, -, conventional, free, unlike⟩ := written api "api.json" accepted
  obtain rfl : w = Dart.memberForm := by
    simp only [memberForms, List.mem_cons, List.not_mem_nil, or_false] at held
    obtain rfl | rfl | rfl | rfl := held
    · rfl
    · exact absurd spoken (by decide)
    · exact absurd spoken (by decide)
    · exact absurd spoken (by decide)
  have made : Dart.memberForm.constructor? (heading api) = some "LedgerClient" := by decide +kernel
  have other : "LedgerClient" ∉ Dart.memberForm.methodNames api :=
    unlike "LedgerClient" made (by decide +kernel)
  refine ⟨known, Sdk.default_check, accepted, _, held, spoken, target, built, emitted, ?_, other, ?_⟩
  · have first : Naming.Style.pascal.Follows (String.ofList ['O', 'p', 'e', 'n']) :=
      Naming.Style.follows_ofList rfl
    have second : Naming.Style.pascal.Follows (String.ofList ['S', 'e', 'a', 'l']) :=
      Naming.Style.follows_ofList rfl
    exact conventional .pascal
      (List.forall_mem_cons.mpr ⟨first, List.forall_mem_singleton.mpr second⟩)
  · have untaken : ∀ m ∈ api.methods, m.name ∉ Dart.memberForm.taken := by decide
    refine free.mpr fun m mem => ⟨untaken m mem, fun same => ?_⟩
    rw [made, Option.some.injEq] at same
    exact other (same ▸ List.mem_map_of_mem mem)

/-- Two names that differ in the case of their first letter, and one that is that of a field. In
    Dart the first two become one, and the third is kept. -/
theorem emitClient_members_initial :
    let api : Api := {
      package := "ledger"
      methods := [{ name := "GetBalance" }, { name := "getBalance" }, { name := "_rpc" }] }
    (Check.api api "api.json").ok = true ∧
      ∃ target, builtin "dart" {} = .ok target ∧
        target.emitClient api = .ok (Fragment.source (Dart.memberForm.client {} api)) ∧
        Fragment.declared (Dart.memberForm.client {} api)
          = ["_rpc", "LedgerClient", "close", "getBalance", "getBalance", "_rpc"] ∧
        ¬(Dart.memberForm.methodNames api).Nodup ∧
        ¬(Dart.memberForm.own (heading api)).Disjoint (Dart.memberForm.methodNames api) := by
  intro api
  obtain ⟨target, built, describes⟩ := Dart.target_describes Sdk.default_check
  have names : Dart.memberForm.methodNames api = ["getBalance", "getBalance", "_rpc"] := by
    decide +kernel
  have members : Dart.memberForm.own (heading api) = ["_rpc", "LedgerClient", "close"] := by
    decide +kernel
  refine ⟨by decide, target, built, ?_, ?_, ?_, ?_⟩
  · rw [describes.emitClient]
    exact congrArg _ (Dart.memberForm.source_client {} api).symm
  · rw [MemberForm.declared_client, names, members]
    rfl
  · rw [names]
    decide
  · rw [names, members]
    exact fun apart => apart (.head _) (by decide : "_rpc" ∈ _)

end ClientGen.Target
