import ClientGen.Model.Check
import ClientGen.Proofs.Target.Emission
import ClientGen.Proofs.Target.Escaping
import ClientGen.Proofs.Target.Fragments

/-! # Parameters of methods

The signature of a method declares what every method is given and then one parameter for each
parameter of the API, under the identifier that the language makes of its name. Different names
become one identifier if the conversion does not tell them apart, or if one of them is what the
reserved word that the other becomes is replaced by; names that follow one convention do neither.
-/

namespace ClientGen.Target

namespace Fragment

variable {parts : List (List Fragment)} {separator : String}

theorem source_intercalate :
    source ([.code separator].intercalate parts) = separator.intercalate (parts.map source) := by
  induction parts with
  | nil => rfl
  | cons part rest ih =>
      cases rest with
      | nil => simp
      | cons next rest => simpa [String.append_assoc] using ih

theorem declared_intercalate :
    declared ([.code separator].intercalate parts) = parts.flatMap declared := by
  induction parts with
  | nil => rfl
  | cons part rest ih =>
      cases rest with
      | nil => simp
      | cons next rest => simpa using ih

end Fragment

/-- How the signatures of a form declare their parameters. -/
structure SignatureForm where
  form : ClientForm
  escaping : Escaping
  /-- The parameters that every method has. -/
  receiver : List (List Fragment)
  /-- What stands before and behind the identifier of a parameter. -/
  before (a : Argument) : String
  after (a : Argument) : String
  /-- The identifiers of the parameters that every method has. -/
  own : List String
  own_nodup : own.Nodup
  own_reserved : own ⊆ escaping.words
  paramName_eq (name : String) : form.paramName name = escaping.identifier name
  receiver_eq : form.receiver = receiver.map Fragment.source
  declared_receiver : receiver.flatMap Fragment.declared = own
  declaration_eq (a : Argument) : form.declaration a = before a ++ (a.identifier ++ after a)

namespace SignatureForm

variable (w : SignatureForm)

def parameter (a : Argument) : List Fragment :=
  [.code (w.before a), .name a.identifier, .code (w.after a)]

/-- The parameters between the parentheses of a signature. -/
def parameters (r : Routine) : List Fragment :=
  [.code ", "].intercalate (w.receiver ++ r.arguments.map w.parameter)

def routine (m : Method) : Routine :=
  w.form.routine m.name m.params m.returns m.description

/-- The fragments of a method: what stands before its parameters, its parameters, and what is
    behind them. -/
def method (moduleName : String) (m : Method) : List Fragment :=
  let r := w.routine m
  .code ("\n" ++ (r.description.map (w.form.comment r.identifier)).getD ""
      ++ w.form.opening moduleName r.result r.identifier ++ "(")
    :: (w.parameters r
      ++ [.code (w.form.closing r.result ++ (r.description.map w.form.docstring).getD ""
        ++ w.form.parameterMap r ++ w.form.call r.key r.result ++ w.form.ending)])

/-- A client in fragments. -/
def client (sdk : Sdk) (api : Api) : List Fragment :=
  .code (w.form.head sdk (heading api))
    :: (api.methods.flatMap (w.method api.resolvedModuleName) ++ [.code w.form.foot])

/-- The identifiers that the parameters of a method get. -/
def identifiers (m : Method) : List String :=
  m.params.map fun p => w.form.paramName p.name

theorem source_parameters (r : Routine) :
    Fragment.source (w.parameters r)
      = ", ".intercalate (w.form.receiver ++ r.arguments.map w.form.declaration) := by
  have declarations : (r.arguments.map w.parameter).map Fragment.source
      = r.arguments.map w.form.declaration := by
    rw [List.map_map]
    refine List.map_congr_left fun a _ => ?_
    simp only [Function.comp_apply, parameter, w.declaration_eq, Fragment.source_code,
      Fragment.source_name, Fragment.source_nil, String.append_empty]
  rw [parameters, Fragment.source_intercalate, List.map_append, ← w.receiver_eq, declarations]

theorem source_method (moduleName : String) (m : Method) :
    Fragment.source (w.method moduleName m) = w.form.method moduleName m := by
  simp only [method, routine, ClientForm.method, ClientForm.block, ClientForm.signature,
    source_parameters, Fragment.source_code, Fragment.source_append, Fragment.source_nil,
    String.append_assoc, String.append_empty]

theorem source_client (sdk : Sdk) (api : Api) :
    Fragment.source (w.client sdk api) = w.form.client sdk api := by
  rw [client, ClientForm.client, Fragment.source_code, Fragment.source_append,
    Fragment.source_flatMap fun m _ => w.source_method _ m, Fragment.source_code,
    Fragment.source_nil, String.append_empty, String.append_assoc]

theorem declared_parameters (m : Method) :
    Fragment.declared (w.parameters (w.routine m)) = w.own ++ w.identifiers m := by
  have arguments : ((w.routine m).arguments.map w.parameter).flatMap Fragment.declared
      = w.identifiers m := by
    change ((m.params.map w.form.argument).map w.parameter).flatMap Fragment.declared = _
    rw [List.map_map, List.flatMap_map, identifiers, List.map_eq_flatMap]
    rfl
  rw [parameters, Fragment.declared_intercalate, List.flatMap_append, w.declared_receiver,
    arguments]

variable {w} {m : Method} {style : Naming.Style}

theorem own_disjoint : w.own.Disjoint (w.identifiers m) := by
  intro name own mem
  obtain ⟨p, -, rfl⟩ := List.mem_map.mp mem
  rw [w.paramName_eq] at own
  exact Escaping.escape_not_mem_words (w.own_reserved own)

/-- Different parameters are declared under different identifiers as far as no two names meet. -/
theorem nodup_parameters_iff (distinct : (m.params.map (·.name)).Nodup) :
    (w.own ++ w.identifiers m).Nodup ↔ ∀ p ∈ m.params, ∀ q ∈ m.params,
      w.escaping.Meet p.name q.name → p.name = q.name := by
  have named : w.identifiers m = (m.params.map (·.name)).map w.form.paramName := by
    rw [List.map_map]
    rfl
  have together : (w.own ++ w.identifiers m).Nodup ↔ (w.identifiers m).Nodup :=
    List.nodup_append'.trans ⟨fun h => h.2.1, fun h => ⟨w.own_nodup, h, own_disjoint⟩⟩
  rw [together, named, List.nodup_map_iff_inj_on distinct]
  simp only [List.forall_mem_map, w.paramName_eq, Escaping.identifier_eq_iff]

theorem nodup_parameters (distinct : (m.params.map (·.name)).Nodup)
    (follows : ∀ p ∈ m.params, style.Follows p.name) : (w.own ++ w.identifiers m).Nodup :=
  (nodup_parameters_iff distinct).mpr fun p mem q mem' meet =>
    Escaping.identifier_inj (follows p mem) (follows q mem') (Escaping.identifier_eq_iff.mpr meet)

end SignatureForm

def Dart.signatureForm : SignatureForm where
  form := Dart.clientForm
  escaping := Dart.paramNames
  receiver := []
  before a := a.type ++ " "
  after _ := ""
  own := []
  own_nodup := List.nodup_nil
  own_reserved := List.nil_subset _
  paramName_eq _ := Dart.paramName_eq
  receiver_eq := rfl
  declared_receiver := rfl
  declaration_eq a := by rw [String.append_empty]; rfl

def Go.signatureForm : SignatureForm where
  form := Go.clientForm
  escaping := Go.paramNames
  receiver := [[.name "ctx", .code " context.Context"]]
  before _ := ""
  after a := " " ++ a.type
  own := ["ctx"]
  own_nodup := List.nodup_singleton _
  own_reserved := by decide
  paramName_eq _ := Go.paramName_eq
  receiver_eq := by decide +kernel
  declared_receiver := rfl
  declaration_eq a := by rw [String.empty_append, ← String.append_assoc]; rfl

def Python.signatureForm : SignatureForm where
  form := Python.clientForm
  escaping := Python.identifiers
  receiver := [[.name "self"]]
  before _ := ""
  after a := ": " ++ a.type
  own := ["self"]
  own_nodup := List.nodup_singleton _
  own_reserved := by decide
  paramName_eq _ := Python.identifier_eq
  receiver_eq := by decide
  declared_receiver := rfl
  declaration_eq a := by rw [String.empty_append, ← String.append_assoc]; rfl

def Rust.signatureForm : SignatureForm where
  form := Rust.clientForm
  escaping := Rust.identifiers
  receiver := [[.code "&", .name "self"]]
  before _ := ""
  after a := ": " ++ a.type
  own := ["self"]
  own_nodup := List.nodup_singleton _
  own_reserved := by decide
  paramName_eq _ := Rust.identifier_eq
  receiver_eq := by decide +kernel
  declared_receiver := rfl
  declaration_eq a := by rw [String.empty_append, ← String.append_assoc]; rfl

/-- The signature forms of the built-in languages. -/
def signatureForms : List SignatureForm :=
  [Dart.signatureForm, Python.signatureForm, Rust.signatureForm, Go.signatureForm]

theorem exists_signatureForm {form : PackageForm} (listed : form ∈ builtinForms) :
    ∃ w ∈ signatureForms, w.form = form.client := by
  have same : signatureForms.map (·.form) = builtinForms.map (·.client) := rfl
  have mem := List.mem_map_of_mem (f := PackageForm.client) listed
  rw [← same] at mem
  exact List.mem_map.mp mem

/-- A signature declares what every method is given and a parameter for each parameter of the
    method. If their names are different, so are the identifiers, if and only if no two different
    names meet in the language, which those that follow one convention do not. -/
theorem emitClient_parameters {language : String} (known : language ∈ builtinLanguages) {sdk : Sdk}
    (valid : sdk.check = .ok ()) :
    ∃ w ∈ signatureForms, w.form.language = language ∧
      ∃ target, builtin language sdk = .ok target ∧ ∀ api : Api,
        target.emitClient api = .ok (Fragment.source (w.client sdk api)) ∧
        ∀ m ∈ api.methods,
          Fragment.declared (w.parameters (w.routine m)) = w.own ++ w.identifiers m ∧
          w.own.Disjoint (w.identifiers m) ∧
          ((m.params.map (·.name)).Nodup →
            ((w.own ++ w.identifiers m).Nodup ↔ ∀ p ∈ m.params, ∀ q ∈ m.params,
              w.escaping.Meet p.name q.name → p.name = q.name) ∧
            ∀ style : Naming.Style, (∀ p ∈ m.params, style.Follows p.name) →
              (w.own ++ w.identifiers m).Nodup) := by
  obtain ⟨form, listed, rfl⟩ := exists_form known
  obtain ⟨target, built, describes⟩ := builtin_describes listed valid
  obtain ⟨w, held, same⟩ := exists_signatureForm listed
  refine ⟨w, held, by rw [same], target, built, fun api => ⟨?_, fun m _ => ?_⟩⟩
  · rw [describes.emitClient, w.source_client, same]
  · exact ⟨w.declared_parameters m, SignatureForm.own_disjoint, fun distinct =>
      ⟨SignatureForm.nodup_parameters_iff distinct,
        fun _ => SignatureForm.nodup_parameters distinct⟩⟩

theorem emitClient_parameters_go :
    let m : Method := {
      name := "Find",
      params := [{ name := "ctx", typeName := "string" },
        { name := "type", typeName := "string" }] }
    let api : Api := { package := "ledger", methods := [m] }
    "go" ∈ builtinLanguages ∧ ({} : Sdk).check = .ok () ∧ m ∈ api.methods ∧
      (m.params.map (·.name)).Nodup ∧ (∀ p ∈ m.params, Naming.Style.camel.Follows p.name) ∧
      ∃ w ∈ signatureForms, w.form.language = "go" ∧ ∃ target, builtin "go" {} = .ok target ∧
        target.emitClient api = .ok (Fragment.source (w.client {} api)) ∧
        (w.own ++ w.identifiers m).Nodup := by
  intro m api
  have known : "go" ∈ builtinLanguages := by decide
  have there : m ∈ api.methods := List.mem_singleton_self m
  have distinct : (m.params.map (·.name)).Nodup := by decide
  have follows : ∀ p ∈ m.params, Naming.Style.camel.Follows p.name := by
    have first : Naming.Style.camel.Follows (String.ofList ['c', 't', 'x']) :=
      Naming.Style.follows_ofList rfl
    have second : Naming.Style.camel.Follows (String.ofList ['t', 'y', 'p', 'e']) :=
      Naming.Style.follows_ofList rfl
    exact List.forall_mem_cons.mpr ⟨first, List.forall_mem_singleton.mpr second⟩
  obtain ⟨w, held, spoken, target, built, written⟩ := emitClient_parameters known Sdk.default_check
  obtain ⟨emitted, declared⟩ := written api
  exact ⟨known, Sdk.default_check, there, distinct, follows, w, held, spoken, target, built,
    emitted, ((declared m there).2.2 distinct).2 .camel follows⟩

/-- Two names that the conversion to snake case does not tell apart, in an accepted API. -/
theorem emitClient_parameters_word :
    let m : Method := {
      name := "Find",
      params := [{ name := "userId", typeName := "string" },
        { name := "user_id", typeName := "string" }] }
    let api : Api := { package := "ledger", methods := [m] }
    (Check.api api "api.json").ok = true ∧
      ∃ target, builtin "python" {} = .ok target ∧
        target.emitClient api = .ok (Fragment.source (Python.signatureForm.client {} api)) ∧
        Fragment.declared (Python.signatureForm.parameters (Python.signatureForm.routine m))
          = ["self", "user_id", "user_id"] ∧
        ¬(Python.signatureForm.identifiers m).Nodup := by
  intro m api
  obtain ⟨target, built, describes⟩ := Python.target_describes Sdk.default_check
  have identifiers : Python.signatureForm.identifiers m = ["user_id", "user_id"] := by
    decide
  refine ⟨by decide, target, built, ?_, ?_, ?_⟩
  · rw [describes.emitClient]
    exact congrArg _ (Python.signatureForm.source_client {} api).symm
  · rw [SignatureForm.declared_parameters, identifiers]
    rfl
  · rw [identifiers]
    decide

end ClientGen.Target
