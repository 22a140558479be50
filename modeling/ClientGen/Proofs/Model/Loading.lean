import ClientGen.Model.Document
import ClientGen.Proofs.Model.Form

/-! # Loading and reloading models

A document that has the form of a model is never refused afterwards: the only documents that are
malformed are those that are no JSON or YAML, and a value that cannot be decoded has been reported
as a violation of the schema. A model that has been loaded can be saved and loaded again, and is
the same as before, with its defaults, its absent options and the kind of every enumeration value.
-/

namespace ClientGen

open Schema

section Findings

variable {α : Type} {schema value : Json} {file : String}

/-- A schema that is one, in the older dialect. -/
structure Schema.IsOlder (schema : Json) : Prop where
  sound : fault? schema = none
  dialect : dialectOf schema = .older

theorem apiSchema_isOlder : IsOlder apiSchema :=
  ⟨Option.isNone_iff_eq_none.mp (by decide +kernel), by decide +kernel⟩

theorem typesSchema_isOlder : IsOlder typesSchema :=
  ⟨Option.isNone_iff_eq_none.mp (by decide +kernel), by decide +kernel⟩

theorem findings_eq_map (h : IsOlder schema) :
    findings schema value file = (violations .older schema value).map fun violation =>
      finding file violation.mismatch.message ("$" ++ violation.path) := by
  rw [findings, h.sound, h.dialect]

theorem findings_eq_nil_iff (h : IsOlder schema) :
    findings schema value file = [] ↔ (violations .older schema value).isEmpty = true := by
  rw [findings_eq_map h, List.map_eq_nil_iff, List.isEmpty_iff]

/-- References are followed at least once for each of them that the schema has. -/
theorem findings_eq_nil (h : IsOlder schema) {depth : Nat}
    (enough : depth ≤ (referencesOf schema).length) :
    ∃ fuel, findings schema value file = [] ↔
      check ⟨"", followed .older schema (fuel + depth)⟩ value (ofJson .older schema) = [] := by
  let steps := (depthOf value + 1) * ((referencesOf schema).length + 1)
  have bounded : depth ≤ steps :=
    calc depth ≤ (referencesOf schema).length + 1 := Nat.le_succ_of_le enough
      _ ≤ steps := Nat.le_mul_of_pos_left _ (Nat.succ_pos _)
  refine ⟨steps - depth, ?_⟩
  rw [Nat.sub_add_cancel bounded, findings_eq_nil_iff h, List.isEmpty_iff]
  rfl

variable {codec : Codec α} {depth : Nat}

theorem exists_decode (h : IsOlder schema) (enough : depth ≤ (referencesOf schema).length)
    (agrees : ∀ fuel, codec.Agrees (followed .older schema (fuel + depth)) (ofJson .older schema))
    (accepted : findings schema value file = []) : ∃ x, codec.decode value = .ok x := by
  obtain ⟨fuel, checked⟩ := findings_eq_nil h enough
  exact (agrees fuel).decodes (checked.mp accepted)

theorem findings_encode (h : IsOlder schema) (enough : depth ≤ (referencesOf schema).length)
    (agrees : ∀ fuel, codec.Agrees (followed .older schema (fuel + depth)) (ofJson .older schema))
    {x : α} (known : codec.Decoded x) : findings schema (codec.encode x) file = [] := by
  obtain ⟨fuel, checked⟩ := findings_eq_nil h enough
  exact checked.mpr ((agrees fuel).accepts known)

theorem exists_decode_api (accepted : findings apiSchema value file = []) :
    ∃ api, Api.decode value = .ok api :=
  exists_decode apiSchema_isOlder (by decide) Api.agrees_apiSchema accepted

theorem exists_decode_types (accepted : findings typesSchema value file = []) :
    ∃ types, Types.decode value = .ok types :=
  exists_decode typesSchema_isOlder (by decide) Types.agrees_typesSchema accepted

end Findings

namespace ModelKind

variable {α : Type}

/-- The schema of a kind of model keeps everything out that is no model. -/
structure GuardedBySchema (kind : ModelKind α) : Prop where
  /-- Every value of the right form is a model. -/
  decodes (file : String) (value : Json) :
    findings kind.schema value file = [] → ∃ model, kind.decode value = .ok model
  /-- Only a text that is no document is malformed. -/
  malformed_iff (format : DocumentFormat) (file content : String) (finding : Finding) :
    kind.parse format file content = .error (.malformed finding) ↔
      format.parse file content = .error (.malformed finding)
  /-- A document that is no model is refused for the violations of its schema. -/
  violations (format : DocumentFormat) (file content : String) (value : Json)
      (error : Json.DecodeError) :
    format.parse file content = .ok value → kind.decode value = .error error →
      findings kind.schema value file ≠ [] ∧
      kind.parse format file content
        = .error (.violations file (Report.ofFindings (findings kind.schema value file)))

variable {kind : ModelKind α} {file content : String} {value : Json} {files : Files}

theorem parse_json (parsed : Json.parse content = .ok value) :
    kind.parse .json file content = kind.ofValue file value := by
  rw [parse, DocumentFormat.parse, parsed]
  rfl

theorem load_json (there : files.isFile file = true)
    (format : DocumentFormat.ofPath? file = some .json) (text : files.readText file = .ok content)
    (parsed : Json.parse content = .ok value) :
    kind.load files file = (kind.ofValue file value).map (kind.withReport file) := by
  simp only [load, there, format, text, Bool.not_true, Bool.false_eq_true, if_false]
  change (kind.parse .json file content).bind (.ok ∘ kind.withReport file) = _
  rw [parse_json parsed]
  cases kind.ofValue file value <;> rfl

theorem ofValue_of_findings_ne_nil (found : findings kind.schema value file ≠ []) :
    kind.ofValue file value
      = .error (.violations file (Report.ofFindings (findings kind.schema value file))) := by
  unfold ofValue
  split
  · contradiction
  · rfl

theorem ofValue_of_findings_eq_nil (accepted : findings kind.schema value file = []) {model : α}
    (decoded : kind.decode value = .ok model) : kind.ofValue file value = .ok model := by
  rw [ofValue, accepted, decoded]
  rfl

theorem load_formed (there : files.isFile file = true)
    (format : DocumentFormat.ofPath? file = some .json) (text : files.readText file = .ok content)
    (parsed : Json.parse content = .ok value) (older : IsOlder kind.schema)
    (formed : (Schema.violations .older kind.schema value).isEmpty = true) {model : α}
    (decoded : kind.decode value = .ok model) :
    kind.load files file = .ok (kind.withReport file model) := by
  have accepted : findings kind.schema value file = [] := (findings_eq_nil_iff older).mpr formed
  rw [load_json there format text parsed, ofValue_of_findings_eq_nil accepted decoded]
  rfl

theorem ofValue_ne_malformed
    (decodes : findings kind.schema value file = [] → ∃ model, kind.decode value = .ok model)
    (finding : Finding) : kind.ofValue file value ≠ .error (.malformed finding) := by
  by_cases accepted : findings kind.schema value file = []
  · obtain ⟨model, decoded⟩ := decodes accepted
    rw [ofValue_of_findings_eq_nil accepted decoded]
    exact nofun
  · rw [ofValue_of_findings_ne_nil accepted]
    exact nofun

/-- It is enough that values of the right form can be decoded. -/
theorem GuardedBySchema.of_decodes
    (decodes : ∀ (file : String) (value : Json),
      findings kind.schema value file = [] → ∃ model, kind.decode value = .ok model) :
    kind.GuardedBySchema where
  decodes := decodes
  malformed_iff format file content finding := by
    rw [parse]
    cases document : format.parse file content with
    | error error =>
        exact ⟨fun h => congrArg Except.error (Except.error.inj h),
          fun h => congrArg Except.error (Except.error.inj h)⟩
    | ok value =>
        exact ⟨fun h => absurd h (ofValue_ne_malformed (decodes file value) finding), nofun⟩
  violations format file content value error document undecodable := by
    have found : findings kind.schema value file ≠ [] := by
      intro accepted
      obtain ⟨model, decoded⟩ := decodes file value accepted
      cases decoded.symm.trans undecodable
    refine ⟨found, ?_⟩
    rw [parse, document]
    exact ofValue_of_findings_ne_nil found

/-- A document that passes the check of its schema can be loaded, for both kinds of models: what
    follows the check never fails. -/
theorem models_guardedBySchema : api.GuardedBySchema ∧ types.GuardedBySchema :=
  ⟨.of_decodes fun _ _ => exists_decode_api, .of_decodes fun _ _ => exists_decode_types⟩

/-- A document that says too little, and one that says enough. -/
theorem models_guardedBySchema_ledger :
    let enough : Json := .obj [("methods", .arr []), ("package", .str "ledger")]
    let little : Json := .obj [("methods", .arr [])]
    findings apiSchema enough "api.json" = [] ∧ (∃ model, api.decode enough = .ok model) ∧
      Json.parse "\x7b \"methods\": [] \x7d" = .ok little ∧
      findings apiSchema little "api.json" ≠ [] ∧
      api.parse .json "api.json" "\x7b \"methods\": [] \x7d" = .error
        (.violations "api.json" (Report.ofFindings (findings apiSchema little "api.json"))) := by
  intro enough little
  have formed : findings apiSchema enough "api.json" = [] :=
    (findings_eq_nil_iff apiSchema_isOlder).mpr (by decide +kernel)
  have parsed : Json.parse "\x7b \"methods\": [] \x7d" = .ok little := rfl
  have document : DocumentFormat.json.parse "api.json" "\x7b \"methods\": [] \x7d"
      = .ok little := by
    rw [DocumentFormat.parse, parsed]
    rfl
  obtain ⟨error, undecodable⟩ : ∃ error, api.decode little = .error error := ⟨_, rfl⟩
  obtain ⟨guarded, -⟩ := models_guardedBySchema
  obtain ⟨found, refused⟩ := guarded.violations .json _ _ _ _ document undecodable
  exact ⟨formed, guarded.decodes _ _ formed, parsed, found, refused⟩

/-- A model that has been loaded is written as a value that has the right form and is read back
    as the same model. -/
theorem toJson_reloads (file later : String) (value : Json) :
    (∀ model : Api, findings apiSchema value file = [] → Api.decode value = .ok model →
      findings apiSchema model.toJson later = [] ∧ Api.decode model.toJson = .ok model) ∧
    (∀ model : Types, findings typesSchema value file = [] → Types.decode value = .ok model →
      findings typesSchema model.toJson later = [] ∧ Types.decode model.toJson = .ok model) := by
  constructor
  · intro model _ decoded
    have known := Api.lawful.decoded decoded
    exact ⟨findings_encode apiSchema_isOlder (by decide) Api.agrees_apiSchema known,
      Api.lawful.decode_encode known⟩
  · intro model _ decoded
    have known := Types.lawful.decoded decoded
    exact ⟨findings_encode typesSchema_isOlder (by decide) Types.agrees_typesSchema known,
      Types.lawful.decode_encode known⟩

/-- The largest whole number stays unsigned, and record types that are left out stay so. -/
theorem toJson_reloads_largest :
    let largest : Json := .obj [("enums", .arr [.obj [("name", .str "Limit"), ("values", .arr [
      .obj [("name", .str "Max"), ("value", .int Json.maxInt)]])]]), ("package", .str "limits")]
    let model : Types :=
      { package := "limits", enums := [⟨"Limit", [⟨"Max", .unsigned 0xFFFFFFFFFFFFFFFF⟩]⟩] }
    findings typesSchema largest "limits.json" = [] ∧ Types.decode largest = .ok model ∧
      findings typesSchema model.toJson "copy.json" = [] ∧
      Types.decode model.toJson = .ok model := by
  intro largest model
  have accepted : findings typesSchema largest "limits.json" = [] :=
    (findings_eq_nil_iff typesSchema_isOlder).mpr (by decide +kernel)
  have decoded : Types.decode largest = .ok model := rfl
  exact ⟨accepted, decoded,
    (toJson_reloads "limits.json" "copy.json" largest).2 model accepted decoded⟩

end ModelKind

end ClientGen
