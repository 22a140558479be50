import ClientGen.Model.Document
import ClientGen.Proofs.Json.Fields

/-! # What reports tell

A report is put together from single findings, from lists of findings and from other reports. The
flag it carries is kept up to date along the way, and nothing is lost or moved: however a report has
been put together, it is the report on the findings that went into it.
-/

namespace ClientGen

namespace Report

/-- The report is put together from the findings, in their order. -/
inductive Built : List Finding → Report → Prop
  | success : Built [] {}
  | listed (given : List Finding) : Built given (.ofFindings given)
  | push {given : List Finding} {report : Report} (built : Built given report)
      (finding : Finding) : Built (given ++ [finding]) (report.push finding)
  | merge {given more : List Finding} {report other : Report} (built : Built given report)
      (built' : Built more other) : Built (given ++ more) (report.merge other)

/-- What a report says is what it was given, and its flag says whether there is an error. -/
structure Tells (given : List Finding) (report : Report) : Prop where
  findings : report.findings = given
  ok_iff : report.ok = true ↔ ∀ finding ∈ given, finding.severity ≠ .error
  ok_iff_count : report.ok = true ↔ report.count .error = 0
  ok_iff_hasErrors : report.ok = true ↔ report.hasErrors = false

variable {given more : List Finding} {report other : Report}

theorem push_ofFindings (given : List Finding) (finding : Finding) :
    (ofFindings given).push finding = ofFindings (given ++ [finding]) := by
  simp [push, ofFindings]

theorem merge_ofFindings (given more : List Finding) :
    (ofFindings given).merge (ofFindings more) = ofFindings (given ++ more) := by
  change more.foldl push (ofFindings given) = _
  induction more generalizing given with
  | nil => rw [List.append_nil]; rfl
  | cons finding rest ih =>
      rw [List.foldl_cons, push_ofFindings, ih, List.append_assoc]
      rfl

theorem Built.eq_ofFindings (built : Built given report) : report = ofFindings given := by
  induction built with
  | success => rfl
  | listed => rfl
  | push _ finding ih => rw [ih, push_ofFindings]
  | merge _ _ ih ih' => rw [ih, ih', merge_ofFindings]

theorem ok_ofFindings_iff :
    (ofFindings given).ok = true ↔ ∀ finding ∈ given, finding.severity ≠ .error := by
  simp [ofFindings, Finding.isError]

theorem count_ofFindings_eq_zero_iff :
    (ofFindings given).count .error = 0 ↔ ∀ finding ∈ given, finding.severity ≠ .error := by
  simp [ofFindings, count]

theorem Built.tells (built : Built given report) : Tells given report := by
  obtain rfl := built.eq_ofFindings
  exact ⟨rfl, ok_ofFindings_iff, ok_ofFindings_iff.trans count_ofFindings_eq_zero_iff.symm,
    (Bool.not_eq_false' (ofFindings given).ok ▸ Iff.rfl)⟩

theorem Built.merge_eq (built : Built given report) (built' : Built more other) :
    report.merge other = ofFindings (report.findings ++ other.findings) := by
  rw [built.tells.findings, built'.tells.findings]
  exact (built.merge built').eq_ofFindings

end Report

namespace ModelKind

open Report

variable {α : Type} {kind : ModelKind α} {files : Files} {path file content : String} {value : Json}
  {model : α} {report : Report}

theorem ofValue_violations (refused : kind.ofValue file value = .error (.violations path report)) :
    report = .ofFindings (Schema.findings kind.schema value file) := by
  unfold ofValue at refused
  split at refused
  · cases decoded : kind.decode value with
    | error | ok => rw [decoded] at refused; cases refused
  · cases refused
    rfl

theorem format_parse_ne_violations {format : DocumentFormat} :
    format.parse file content ≠ .error (.violations path report) := by
  intro refused
  cases format with
  | json =>
      rw [DocumentFormat.parse] at refused
      cases parsed : Json.parse content with
      | error | ok => rw [parsed] at refused; cases refused
  | yaml =>
      rw [DocumentFormat.parse] at refused
      cases parsed : Yaml.parse content with
      | error | ok => rw [parsed] at refused; cases refused

theorem parse_violations {format : DocumentFormat}
    (refused : kind.parse format file content = .error (.violations path report)) :
    ∃ given, Built given report := by
  unfold parse at refused
  cases document : format.parse file content with
  | error error =>
      rw [document] at refused
      cases refused
      exact absurd document format_parse_ne_violations
  | ok value =>
      rw [document] at refused
      rw [ofValue_violations refused]
      exact ⟨_, .listed _⟩

/-- Without a text there are no violations, and with one it is up to the text. -/
theorem load_violations (refused : kind.load files path = .error (.violations file report)) :
    ∃ given, Built given report := by
  simp only [load] at refused
  split at refused
  · cases refused
  · split at refused
    · cases refused
    · rename_i format _
      cases read : files.readText path with
      | error error => rw [read] at refused; cases refused
      | ok content =>
          rw [read] at refused
          cases parsed : kind.parse format path content with
          | error error =>
              simp only [Except.mapError, bind, Except.bind, parsed] at refused
              cases refused
              exact parse_violations parsed
          | ok model =>
              simp only [Except.mapError, bind, Except.bind, parsed] at refused
              cases refused

theorem load_eq_ok (loaded : kind.load files path = .ok (model, report)) :
    report = kind.check model path := by
  simp only [load] at loaded
  split at loaded
  · cases loaded
  · split at loaded
    · cases loaded
    · obtain ⟨content, -, loaded⟩ := Json.bind_eq_ok.mp loaded
      obtain ⟨_, -, loaded⟩ := Json.bind_eq_ok.mp loaded
      cases loaded
      rfl

end ModelKind

end ClientGen
