import ClientGen.Proofs.Semver
import ClientGen.Proofs.Target.Emission
import ClientGen.Proofs.Text.Lines
import ClientGen.Proofs.Text.Toml

/-! # Manifests

In two languages the manifest of a package is a TOML file. Its lines are those of the template,
with the name, the version and the description between quotes as they are. Names and versions have
been checked, and cannot end their lines or the quotes around them. Descriptions have not: a
manifest says the right thing about its package if and only if there is nothing in the description
that means something else in TOML.
-/

namespace ClientGen.Target

open Text
open Json (bind_eq_ok mapError_eq_ok)

/-- Whether a line of a manifest gives a description. -/
def isDescription (line : String) : Bool :=
  "description = ".toList.isPrefixOf line.toList

/-- The line that gives `body` between quotes. -/
def descriptionLine (body : String) : String :=
  "description = " ++ Toml.basicString.literal body

/-- A manifest has as many lines as its template, one of them gives a description, and what stands
    between the quotes there is read as `text`. -/
def Tells (template manifest text : String) : Prop :=
  (lines manifest).length = (lines template).length ∧
    ∃ body, (lines manifest).filter isDescription = [descriptionLine body] ∧
      Toml.basicString.read? (Toml.basicString.literal body)
        = some (Toml.basicString.encode text.toList, "")

/-- A line that gives something else than a description. -/
structure IsOther (line : String) : Prop extends IsLine line where
  other : isDescription line = false

/-- The lines around the description in a manifest. -/
structure Surrounds (template : String) (above below : List String) : Prop where
  others : ∀ line ∈ above ++ below, IsOther line
  length : (lines template).length = above.length + below.length + 1

section Descriptions

variable {template text body : String} {above below : List String}

theorem descriptionLine_inj : descriptionLine body = descriptionLine text ↔ body = text := by
  unfold descriptionLine
  simp [LiteralRules.literal, String.append_right_inj]

theorem isDescription_descriptionLine (text : String) :
    isDescription (descriptionLine text) = true := by
  unfold descriptionLine
  rw [isDescription, List.isPrefixOf_iff_prefix, String.toList_append]
  exact List.prefix_append _ _

theorem descriptionLine_eq (text : String) :
    descriptionLine text = "description = \"" ++ text ++ "\"" := by
  unfold descriptionLine
  apply String.toList_injective
  simp [LiteralRules.literal, Toml.basicString]

theorem feed_mem_descriptionLine : '\n' ∈ (descriptionLine text).toList ↔ '\n' ∈ text.toList := by
  simp [descriptionLine_eq]

theorem isLine_descriptionLine (feed : '\n' ∉ text.toList) : IsLine (descriptionLine text) :=
  descriptionLine_eq text ▸ .around (by decide) feed (by decide) (by decide)

theorem isDescription_of_prefix {line : String}
    (other : ['d', 'e', 's'].isPrefixOf line.toList = false) : isDescription line = false := by
  rw [isDescription, Bool.eq_false_iff, ne_eq, List.isPrefixOf_iff_prefix]
  rintro ⟨rest, same⟩
  rw [← same] at other
  cases other

theorem IsOther.ofList {line : List Char} (feed : '\n' ∉ line)
    (carriage : line.getLast? ≠ some '\r') (other : ['d', 'e', 's'].isPrefixOf line = false) :
    IsOther (String.ofList line) where
  feed := by rwa [String.toList_ofList]
  carriage := by rwa [String.toList_ofList]
  other := isDescription_of_prefix (by rwa [String.toList_ofList])

theorem IsOther.around {front back : String} (start : ['d', 'e', 's'].isPrefixOf front.toList = false)
    (long : 3 ≤ front.toList.length) (free : '\n' ∉ front.toList) (feed : '\n' ∉ text.toList)
    (ending : IsLine back) (nonempty : back ≠ "") : IsOther (front ++ text ++ back) where
  toIsLine := .around free feed ending nonempty
  other := by
    refine isDescription_of_prefix ?_
    rw [String.append_assoc, String.toList_append, Bool.eq_false_iff, ne_eq,
      List.isPrefixOf_iff_prefix] at *
    exact fun inside => start (List.prefix_of_prefix_length_le inside (List.prefix_append _ _) long)

namespace Surrounds

theorem lines_eq (h : Surrounds template above below) (feed : '\n' ∉ text.toList) :
    lines (ofLines (above ++ descriptionLine text :: below))
      = above ++ descriptionLine text :: below := by
  refine lines_ofLines fun line mem => ?_
  rcases List.mem_append.mp mem with mem | mem
  · exact (h.others line (List.mem_append_left _ mem)).toIsLine
  · cases mem with
    | head => exact isLine_descriptionLine feed
    | tail _ mem => exact (h.others line (List.mem_append_right _ mem)).toIsLine

theorem filter_eq (h : Surrounds template above below) (text : String) :
    (above ++ descriptionLine text :: below).filter isDescription = [descriptionLine text] := by
  obtain ⟨before, behind⟩ := List.forall_mem_append.mp h.others
  rw [List.filter_append, List.filter_cons_of_pos (isDescription_descriptionLine text),
    List.filter_eq_nil_iff.mpr fun line mem => by simp [(before line mem).other],
    List.filter_eq_nil_iff.mpr fun line mem => by simp [(behind line mem).other]]
  rfl

/-- A description between quotes as it is leaves the manifest as it should be if and only if every
    character of it can stand for itself. -/
theorem tells_iff (h : Surrounds template above below) :
    Tells template (ofLines (above ++ descriptionLine text :: below)) text
      ↔ ∀ c ∈ text.toList, Toml.isBare c = true := by
  have length : (lines template).length = (above ++ descriptionLine text :: below).length := by
    rw [h.length, List.length_append, List.length_cons, Nat.add_assoc]
  have denotes : Toml.basicString.read? (Toml.basicString.literal text)
        = some (Toml.basicString.encode text.toList, "")
      ↔ ∀ c ∈ text.toList, Toml.isBare c = true := by
    rw [← Toml.allPlain_iff, ← LiteralRules.read?_literal_iff _ text "", String.append_empty]
  rw [Tells, length, length_lines_ofLines_iff]
  constructor
  · rintro ⟨single, body, only, read⟩
    have feed : '\n' ∉ text.toList :=
      mt feed_mem_descriptionLine.mpr
        (single _ (List.mem_append_right _ (List.mem_cons_self ..)))
    rw [h.lines_eq feed, h.filter_eq, List.cons.injEq, descriptionLine_inj] at only
    obtain ⟨rfl, -⟩ := only
    exact denotes.mp read
  · intro bare
    have feed : '\n' ∉ text.toList := fun mem => by cases bare _ mem
    have same := h.lines_eq feed
    rw [← length_lines_ofLines_iff, same]
    exact ⟨rfl, text, h.filter_eq text, denotes.mpr bare⟩

end Surrounds

end Descriptions

section Lines

variable {sdk : Sdk}

theorem feed_not_mem_packageName (valid : sdk.check = .ok ()) :
    '\n' ∉ sdk.packageName.toList := by
  have usable := Sdk.isPackageName_of_check valid
  simp only [Sdk.isPackageName, Bool.and_eq_true, List.all_eq_true] at usable
  intro mem
  cases usable.2 _ mem

theorem feed_not_mem_version (valid : sdk.check = .ok ()) : '\n' ∉ sdk.version.toList := by
  intro mem
  cases Semver.isVersionChar_of_check (Sdk.version_of_check valid) _ mem

def nameLine (sdk : Sdk) : String :=
  "name = \"" ++ sdk.packageName ++ "\""

def versionLine (sdk : Sdk) : String :=
  "version = \"" ++ sdk.version ++ "\""

theorem isOther_nameLine (valid : sdk.check = .ok ()) : IsOther (nameLine sdk) :=
  .around (by decide) (by decide) (by decide) (feed_not_mem_packageName valid) (by decide)
    (by decide)

theorem isOther_versionLine (valid : sdk.check = .ok ()) : IsOther (versionLine sdk) :=
  .around (by decide) (by decide) (by decide) (feed_not_mem_version valid) (by decide)
    (by decide)

end Lines

theorem feed_not_mem_cons {line : List Char} {rest : List String} (first : '\n' ∉ line)
    (others : ∀ text ∈ rest, '\n' ∉ text.toList) :
    ∀ text ∈ String.ofList line :: rest, '\n' ∉ text.toList :=
  List.forall_mem_cons.mpr ⟨by rwa [String.toList_ofList], others⟩

namespace Rust

def linesAbove (sdk : Sdk) : List String :=
  ["[package]", nameLine sdk, versionLine sdk, "edition = \"2021\""]

def linesBelow : List String := [
  "",
  "[dependencies]",
  "chrono = \x7b version = \"0.4\", features = [\"serde\"] \x7d",
  "reqwest = \x7b version = \"0.12\", default-features = false, features = [\"json\", \"rustls-tls\"] \x7d",
  "serde = \x7b version = \"1\", features = [\"derive\"] \x7d",
  "serde_json = \"1\""]

theorem cargo_eq (sdk : Sdk) : cargo sdk
    = ofLines (linesAbove sdk ++ descriptionLine (summary sdk) :: linesBelow) := by
  have name : "[package]\nname = \"" = "[package]" ++ "\n" ++ "name = \"" := by decide +kernel
  have version : "\"\nversion = \"" = "\"" ++ "\n" ++ "version = \"" := by decide
  have edition : "\"\nedition = \"2021\"\ndescription = \""
      = "\"" ++ "\n" ++ "edition = \"2021\"" ++ "\n" ++ "description = \"" := by
    decide +kernel
  have below : dependencies = "\"" ++ "\n" ++ ofLines linesBelow := by decide +kernel
  unfold cargo linesAbove nameLine versionLine
  simp only [name, version, edition, below, descriptionLine_eq, ofLines_append, ofLines_cons,
    ofLines_nil, String.append_assoc, String.empty_append]

theorem surrounds {sdk : Sdk} (valid : sdk.check = .ok ()) :
    Surrounds cargoTemplate (linesAbove sdk) linesBelow where
  others := by
    simp only [linesAbove, linesBelow, List.cons_append, List.nil_append, List.forall_mem_cons]
    refine ⟨?_, isOther_nameLine valid, isOther_versionLine valid, ?_, ?_, ?_, ?_, ?_, ?_, ?_,
      List.forall_mem_nil _⟩
    all_goals exact .ofList (by decide) (by decide) (by decide)
  length := by
    rw [cargoTemplate, length_lines_ofLines_iff.mpr
      (by repeat (first | apply feed_not_mem_cons (by decide) | exact List.forall_mem_nil _))]
    rfl

end Rust

namespace Python

def linesAbove (sdk : Sdk) : List String := [
  "[build-system]",
  "requires = [\"setuptools>=68\"]",
  "build-backend = \"setuptools.build_meta\"",
  "",
  "[project]",
  nameLine sdk,
  versionLine sdk]

def packagesLine (sdk : Sdk) : String :=
  "packages = [\"" ++ sdk.packageName ++ "\"]"

def linesBelow (sdk : Sdk) : List String := [
  "requires-python = \">=3.10\"",
  "dependencies = []",
  "",
  "[tool.setuptools]",
  packagesLine sdk]

theorem pyproject_eq (sdk : Sdk) : pyproject sdk
    = ofLines (linesAbove sdk ++ descriptionLine (summary sdk) :: linesBelow sdk) := by
  have system : buildSystem
      = ofLines ["[build-system]", "requires = [\"setuptools>=68\"]",
          "build-backend = \"setuptools.build_meta\"", "", "[project]"] ++ "name = \"" := by
    decide +kernel
  have version : "\"\nversion = \"" = "\"" ++ "\n" ++ "version = \"" := by decide +kernel
  have description : "\"\ndescription = \"" = "\"" ++ "\n" ++ "description = \"" := by
    decide
  have below : requirements = "\"" ++ "\n" ++ ofLines ["requires-python = \">=3.10\"",
      "dependencies = []", "", "[tool.setuptools]"] ++ "packages = [\"" := by
    decide +kernel
  have ending : "\"]\n" = "\"]" ++ "\n" := by decide
  unfold pyproject linesAbove linesBelow nameLine versionLine packagesLine
  simp only [system, version, description, below, ending, descriptionLine_eq, ofLines_append,
    ofLines_cons, ofLines_nil, String.append_assoc, String.empty_append, String.append_empty]

theorem surrounds {sdk : Sdk} (valid : sdk.check = .ok ()) :
    Surrounds pyprojectTemplate (linesAbove sdk) (linesBelow sdk) where
  others := by
    have packages : IsOther (packagesLine sdk) :=
      .around (by decide) (by decide) (by decide) (feed_not_mem_packageName valid) (by decide)
        (by decide)
    simp only [linesAbove, linesBelow, List.cons_append, List.nil_append, List.forall_mem_cons]
    refine ⟨?_, ?_, ?_, ?_, ?_, isOther_nameLine valid, isOther_versionLine valid, ?_, ?_, ?_, ?_,
      packages, List.forall_mem_nil _⟩
    all_goals exact .ofList (by decide) (by decide) (by decide)
  length := by
    rw [pyprojectTemplate, length_lines_ofLines_iff.mpr
      (by repeat (first | apply feed_not_mem_cons (by decide) | exact List.forall_mem_nil _))]
    rfl

end Python

/-- The manifests that are TOML files, by language, with their paths and templates. -/
def tomlManifests : List (String × String × String) := [
  (Rust.language, "Cargo.toml", Rust.cargoTemplate),
  (Python.language, "pyproject.toml", Python.pyprojectTemplate)]

section Emission

variable {sdk : Sdk}

theorem Rust.exists_manifest (valid : sdk.check = .ok ()) :
    ∃ target, Rust.target sdk = .ok target ∧ ∃ file ∈ target.additional,
      file.path = "Cargo.toml" ∧ file.template = cargoTemplate ∧
      target.backend.emitAdditional file = .ok (cargo sdk) := by
  obtain ⟨target, built, describes⟩ := target_describes valid
  have additional := describes.additional
  obtain ⟨_, -, same⟩ := bind_eq_ok.mp built
  obtain ⟨_, -, same⟩ := bind_eq_ok.mp same
  cases same
  cases additional with
  | cons first _ => exact ⟨_, built, _, .head _, rfl, rfl, first.2⟩

theorem Python.exists_manifest (valid : sdk.check = .ok ()) :
    ∃ target, Python.target sdk = .ok target ∧ ∃ file ∈ target.additional,
      file.path = "pyproject.toml" ∧ file.template = pyprojectTemplate ∧
      target.backend.emitAdditional file = .ok (pyproject sdk) := by
  obtain ⟨target, built, describes⟩ := target_describes valid
  have additional := describes.additional
  obtain ⟨_, -, same⟩ := bind_eq_ok.mp built
  obtain ⟨_, -, same⟩ := bind_eq_ok.mp same
  cases same
  cases additional with
  | cons first _ => exact ⟨_, built, _, .head _, rfl, rfl, first.2⟩

/-- A manifest is always written, and it has the lines of its template and says what the package is
    if and only if every character of the description can stand for itself. -/
theorem manifest_tells_iff {language path template : String}
    (listed : (language, path, template) ∈ tomlManifests) (valid : sdk.check = .ok ()) :
    ∃ target, builtin language sdk = .ok target ∧ ∃ file ∈ target.additional,
      file.path = path ∧ file.template = template ∧
      ∃ manifest, target.backend.emitAdditional file = .ok manifest ∧
        (Tells template manifest (summary sdk)
          ↔ ∀ c ∈ (summary sdk).toList, Toml.isBare c = true) := by
  simp only [tomlManifests, List.mem_cons, Prod.mk.injEq, List.not_mem_nil, or_false] at listed
  obtain ⟨rfl, rfl, rfl⟩ | ⟨rfl, rfl, rfl⟩ := listed
  · obtain ⟨target, built, file, mem, path, template, written⟩ := Rust.exists_manifest valid
    refine ⟨target, built, file, mem, path, template, _, written, ?_⟩
    rw [Rust.cargo_eq]
    exact (Rust.surrounds valid).tells_iff
  · obtain ⟨target, built, file, mem, path, template, written⟩ := Python.exists_manifest valid
    refine ⟨target, built, file, mem, path, template, _, written, ?_⟩
    rw [Python.pyproject_eq]
    exact (Python.surrounds valid).tells_iff

/-- A package without a description of its own. -/
theorem manifest_tells_iff_api :
    (Python.language, "pyproject.toml", Python.pyprojectTemplate) ∈ tomlManifests ∧
      ({} : Sdk).check = .ok () ∧ ∃ target, builtin Python.language {} = .ok target ∧
        ∃ file ∈ target.additional, ∃ manifest, target.backend.emitAdditional file = .ok manifest ∧
          Tells Python.pyprojectTemplate manifest "Generated client for api" := by
  have listed : (Python.language, "pyproject.toml", Python.pyprojectTemplate) ∈ tomlManifests :=
    .tail _ (.head _)
  obtain ⟨target, built, file, mem, -, -, manifest, written, tells⟩ :=
    manifest_tells_iff listed Sdk.default_check
  exact ⟨listed, Sdk.default_check, target, built, file, mem, manifest, written,
    tells.mpr (List.all_eq_true.mp (by decide))⟩

/-- A description with quotes in it. -/
theorem manifest_tells_quoted :
    let sdk : Sdk := { description := "The \"ledger\" client" }
    sdk.check = .ok () ∧ ∃ target, builtin Rust.language sdk = .ok target ∧
      ∃ file ∈ target.additional, file.path = "Cargo.toml" ∧
        ∃ manifest, target.backend.emitAdditional file = .ok manifest ∧
          ¬Tells Rust.cargoTemplate manifest "The \"ledger\" client" := by
  intro sdk
  have valid : sdk.check = .ok () :=
    (Sdk.check_description {} _).trans Sdk.default_check
  obtain ⟨target, built, file, mem, path, -, written⟩ := Rust.exists_manifest valid
  refine ⟨valid, target, built, file, mem, path, _, written, ?_⟩
  rw [Rust.cargo_eq]
  intro tells
  have bare := List.all_eq_true.mpr ((Rust.surrounds valid).tells_iff.mp tells)
  exact absurd bare (by decide)

end Emission

end ClientGen.Target
