import ClientGen.Proofs.Sdk
import ClientGen.Proofs.Target.Form
import ClientGen.Proofs.Template.Reading

/-! # Shapes that languages share

Parts of templates that more than one language has, with what they write: the parameters of a
signature, the entries of a parameter map, the type of a field, and the description in a
manifest.
-/

namespace ClientGen.Template

/-- The parameters of a signature that has others before them. -/
abbrev Stmt.declarations (line : Nat) (nameHelper separator typeHelper : String) : Stmt :=
  .forPart line "p" "method" "params" [
    .text ", ",
    .helper line nameHelper "p" "name",
    .text separator,
    .helper line typeHelper "p" "type"] []

/-- The entries of a parameter map. -/
abbrev Stmt.entries (line : Nat) (opening separator nameHelper : String) : Stmt :=
  .forPart line "p" "method" "params" [
    .text opening,
    .part (line + 1) "p" "name",
    .text separator,
    .helper (line + 1) nameHelper "p" "name",
    .text ",\n"] []

/-- The type of a field. -/
abbrev Stmt.fieldType (line : Nat) (function : String) : Stmt :=
  .print line (.call line function [(none, .partOf line "field" "type"),
    (none, .partOf line "field" "optional"), (none, .partOf line "field" "list")])

/-- The description of a package, or one made of its name. -/
abbrev Expr.summary (line : Nat) : Expr :=
  .choice line (.name "description") (.name "description")
    (some (.binary line .join (.literal (.str "Generated client for ")) (.name "name")))

end ClientGen.Template

namespace ClientGen.Target

open Template

variable {env : Environment} {template : String} {fuel : Nat}

/-- The scope of a client template. -/
abbrev clientScope (api : Api) (sdk : Sdk) : Scope :=
  [Environment.frameOf (clientContext api sdk)]

/-- The scope of one of its methods. -/
abbrev methodScope (api : Api) (sdk : Sdk) (loop : Value) (m : Method) : Scope :=
  roundFrame loop "method" m.toValue :: clientScope api sdk

/-- The scope of one of the parameters of a method. -/
abbrev paramScope (api : Api) (sdk : Sdk) (methods : Value) (m : Method) (loop : Value)
    (p : Param) : Scope :=
  roundFrame loop "p" p.toValue :: methodScope api sdk methods m

/-- The scope of a types template. -/
abbrev typesScope (types : Types) (sdk : Sdk) : Scope :=
  [Environment.frameOf (typesContext types sdk)]

/-- The scope of one of its record types. -/
abbrev recordScope (types : Types) (sdk : Sdk) (loop : Value) (type : RecordType) : Scope :=
  roundFrame loop "type" type.toValue :: typesScope types sdk

/-- The scope of one of the fields of a record type. -/
abbrev fieldScope (types : Types) (sdk : Sdk) (records : Value) (type : RecordType)
    (loop : Value) (field : Field) : Scope :=
  roundFrame loop "field" field.toValue :: recordScope types sdk records type

/-- The scope of one of its enumerations. -/
abbrev enumScope (types : Types) (sdk : Sdk) (loop : Value) (enum : EnumType) : Scope :=
  roundFrame loop "enum" enum.toValue :: typesScope types sdk

/-- The scope of one of the members of an enumeration. -/
abbrev memberScope (types : Types) (sdk : Sdk) (enums : Value) (enum : EnumType)
    (loop : Value) (member : Member) : Scope :=
  roundFrame loop "value" member.toValue :: enumScope types sdk enums enum

section Params

variable {api : Api} {sdk : Sdk} {loop : Value} {m : Method}

theorem writes_declarations {nameHelper separator typeHelper : String}
    {name type : String → String}
    (names : env.globals.lookup nameHelper = some (.function (Filters.onText name)))
    (types : env.globals.lookup typeHelper = some (.function (Filters.onText type)))
    (free : ∀ rounds p, (paramScope api sdk loop m rounds p).lookup? nameHelper = none
      ∧ (paramScope api sdk loop m rounds p).lookup? typeHelper = none) (line : Nat) :
    Writes (env.setting template fuel) (methodScope api sdk loop m)
      [.declarations line nameHelper separator typeHelper]
      (String.join (m.params.map fun p =>
        ", " ++ (name p.name ++ (separator ++ type p.typeName)))) := by
  have round (p : Param) (rounds : Value) :
      Writes (env.setting template fuel) (paramScope api sdk loop m rounds p)
        [.text ", ", .helper line nameHelper "p" "name", .text separator,
          .helper line typeHelper "p" "type"]
        (", " ++ (name p.name ++ (separator ++ (type p.typeName ++ "")))) :=
    .text <| .shown (.helper names (free rounds p).1 (.part rfl rfl)) <|
      .text <| .shown (.helper types (free rounds p).2 (.part rfl rfl)) .nil
  exact .of_eq (.forEach rfl rfl rfl round .nil) (by simp)

theorem writes_entries {nameHelper opening separator : String} {name : String → String}
    (names : env.globals.lookup nameHelper = some (.function (Filters.onText name)))
    (free : ∀ rounds p, (paramScope api sdk loop m rounds p).lookup? nameHelper = none)
    (line : Nat) :
    Writes (env.setting template fuel) (methodScope api sdk loop m)
      [.entries line opening separator nameHelper]
      (String.join (m.params.map fun p =>
        opening ++ (p.name ++ (separator ++ (name p.name ++ ",\n"))))) := by
  have round (p : Param) (rounds : Value) :
      Writes (env.setting template fuel) (paramScope api sdk loop m rounds p)
        [.text opening, .part (line + 1) "p" "name", .text separator,
          .helper (line + 1) nameHelper "p" "name", .text ",\n"]
        (opening ++ (p.name ++ (separator ++ (name p.name ++ (",\n" ++ ""))))) :=
    .text <| .shown (.part rfl rfl) <| .text <|
      .shown (.helper names (free rounds p) (.part rfl rfl)) <| .text .nil
  exact .of_eq (.forEach rfl rfl rfl round .nil) (by simp)

theorem parenthesized_cons {α : Type} (first : String) (f : α → String) (xs : List α)
    (rest : String) :
    "(" ++ (", ".intercalate (first :: xs.map f) ++ rest)
      = "(" ++ first ++ (String.join (xs.map fun x => ", " ++ f x) ++ rest) := by
  have separated : ", ".intercalate (first :: xs.map f)
      = first ++ String.join (xs.map fun x => ", " ++ f x) := by
    induction xs generalizing first with
    | nil => simp
    | cons x rest ih => simp [ih, String.append_assoc]
  simp only [separated, String.append_assoc]

end Params

/-- A function of a type, whether it is optional, and whether it is a list. -/
abbrev fieldHelper (f : String → Bool → Bool → String) : Option Global :=
  (({} : Environment).bindFieldHelper "" f).globals.lookup ""

theorem writes_fieldType {function : String} {f : String → Bool → Bool → String}
    {types : Types} {sdk : Sdk} {records loop : Value} {type : RecordType} {field : Field}
    {rest : List Stmt} {more : String}
    (bound : env.globals.lookup function = fieldHelper f)
    (free : (fieldScope types sdk records type loop field).lookup? function = none) (line : Nat)
    (others : Writes (env.setting template fuel) (fieldScope types sdk records type loop field)
      rest more) :
    Writes (env.setting template fuel) (fieldScope types sdk records type loop field)
      (.fieldType line function :: rest)
      (f field.typeName field.optional field.list ++ more) :=
  .shown (.function bound free
    (.cons (.part rfl rfl) (.cons (.part rfl rfl) (.cons (.part rfl rfl) .nil))) rfl) others

/-- The scope of the template of a manifest. -/
abbrev manifestScope (sdk : Sdk) : Scope :=
  [[("description", .str sdk.description), ("name", .str sdk.name),
    ("package", .str sdk.packageName), ("version", .str sdk.version)]]

theorem frameOf_manifest (sdk : Sdk) :
    [Environment.frameOf (.ofJson sdk.manifest)] = manifestScope sdk := by
  have sorted : sdk.manifest = .obj [
      ("description", .str sdk.description), ("name", .str sdk.name),
      ("package", .str sdk.packageName), ("version", .str sdk.version)] := by
    simp only [Sdk.manifest, Json.object, List.foldl_cons, List.foldl_nil, Json.insertField,
      String.reduceEq, String.reduceLT, ↓reduceIte]
  rw [sorted]
  rfl

theorem yields_summary {s : Setting} {sdk : Sdk} {line : Nat} :
    Yields s (manifestScope sdk) (Expr.summary line) (.str (summary sdk)) := by
  have given : Yields s (manifestScope sdk) (.name "description") (.str sdk.description) :=
    .bound rfl
  have named : Yields s (manifestScope sdk) (.name "name") (.str sdk.name) := .bound rfl
  refine .choice given rfl ?_
  cases empty : sdk.description.isEmpty with
  | true =>
      simp only [Value.isTrue, empty, summary]
      exact .joined (.literal _) named
  | false =>
      simp only [Value.isTrue, empty, summary]
      exact given

theorem checkSdk_eq {sdk : Sdk} (valid : sdk.check = .ok ()) : checkSdk sdk = .ok () := by
  rw [checkSdk, valid]
  rfl

/-- An environment with the templates of a client and of types. -/
def withTemplates (env : Environment) (client types : List Stmt) : Environment :=
  { env with templates := (typesName, types) :: (clientName, client) :: env.templates }

theorem addTemplates_eq {language client types : String} (clientReading : Readable client)
    (typesReading : Readable types) :
    addTemplates language client types env
      = .ok (withTemplates env clientReading.stmts typesReading.stmts) := by
  simp only [addTemplates, addTemplate, Environment.add, clientReading.read, typesReading.read]
  rfl

theorem emitClient_eq {target : Target} {tree : List Stmt} {api : Api} {t : String}
    (stored : target.environment.templates.lookup clientName = some tree)
    (h : Writes (target.environment.setting clientName Environment.maxDepth)
      (clientScope api target.sdk) tree t) :
    target.emitClient api = .ok t := by
  rw [Target.emitClient, render_eq stored h]
  rfl

theorem emitTypes_eq {target : Target} {tree : List Stmt} {types : Types} {t : String}
    (stored : target.environment.templates.lookup typesName = some tree)
    (h : Writes (target.environment.setting typesName Environment.maxDepth)
      (typesScope types target.sdk) tree t) :
    target.emitTypes types = .ok t := by
  rw [Target.emitTypes, render_eq stored h]
  rfl

theorem emitAdditional_eq {target : Target} {file : AdditionalFile} {t : String}
    (reading : Readable file.template)
    (h : Writes (target.additionalEnvironment.setting Environment.adHoc Environment.maxDepth)
      [Environment.frameOf (.ofJson (file.data.getD (.obj [])))] reading.stmts t) :
    target.backend.emitAdditional file = .ok t := by
  change (target.renderAdditional file).mapError _ = _
  rw [Target.renderAdditional, AdditionalFile.render, renderText_eq (reading.read _) h]
  rfl

end ClientGen.Target
