import ClientGen.Proofs.Command.Languages
import ClientGen.Proofs.Files.Names

/-! # Overrides

What the command line says hides what a settings file says: a run cannot tell two files apart that
differ only below the command line. The paths in a file are seen from the directory that holds it,
those of the command line are not.
-/

namespace ClientGen

variable {file other : SettingsFile} {overrides : Overrides} {path : String}

/-- Two settings files differ only in what the command line says. -/
structure Overrides.Hides (overrides : Overrides) (file other : SettingsFile) : Prop where
  api : overrides.api = none → file.api = other.api
  types : overrides.types = none → file.types = other.types
  output : overrides.output = none → file.output = other.output
  languages : overrides.languages = [] → file.languages = other.languages
  sdkName : overrides.sdkName = none → file.sdkName = other.sdkName
  version : overrides.version = none → file.version = other.version
  description : file.description = other.description

theorem orElse_eq_or (flag said : Option String) : (flag <|> said) = flag.or said := by
  cases flag <;> rfl

theorem hidden_eq {flag said said' : Option String} (hides : flag = none → said = said') :
    (flag <|> said) = (flag <|> said') := by
  cases flag with
  | none => rw [hides rfl]
  | some value => rfl

namespace Overrides.Hides

theorem seenFrom (hides : overrides.Hides file other) (base : String) :
    overrides.Hides (file.seenFrom base) (other.seenFrom base) :=
  { hides with
    api := fun silent => congrArg (Option.map (Path.join base)) (hides.api silent)
    types := fun silent => congrArg (Option.map (Path.join base)) (hides.types silent)
    output := fun silent => congrArg (Option.map (Path.join base)) (hides.output silent) }

theorem sdkOf_eq (hides : overrides.Hides file other) :
    Settings.sdkOf file overrides = Settings.sdkOf other overrides := by
  rw [Settings.sdkOf, Settings.sdkOf, hidden_eq hides.sdkName, hidden_eq hides.version,
    hides.description]

theorem languages_eq (hides : overrides.Hides file other) :
    (if overrides.languages.isEmpty then file.languages else overrides.languages)
      = if overrides.languages.isEmpty then other.languages else overrides.languages := by
  split
  · rename_i silent
    exact hides.languages (List.isEmpty_iff.mp silent)
  · rfl

/-- Neither the settings nor the error depend on what is hidden. -/
theorem resolve_eq (hides : overrides.Hides file other) :
    Settings.resolve file overrides = Settings.resolve other overrides := by
  rw [Settings.resolve, Settings.resolve, hidden_eq hides.api, hidden_eq hides.types,
    hidden_eq hides.output, hides.sdkOf_eq, hides.languages_eq]

end Overrides.Hides

namespace SettingsFile

/-- What the settings file at a path says, with its paths as they are written there. -/
def Holds (files : Files) (path : String) (file : SettingsFile) : Prop :=
  ∃ text, files.readText path = .ok text ∧ parse text = .ok file

/-- The directory that the paths of a settings file are seen from. -/
def base (path : String) : String :=
  (Path.parent? path).getD ""

theorem load_of_holds {files : Files} (held : Holds files path file) :
    load files path = .ok (file.seenFrom (base path)) := by
  obtain ⟨text, read, parsed⟩ := held
  exact Json.bind_ok (Json.mapError_eq_ok.mpr read)
    (Json.bind_ok (Json.mapError_eq_ok.mpr parsed) rfl)

end SettingsFile

namespace Command

open SettingsFile (Holds)

variable {files files' : Files} {settings : Settings}

theorem settingsOf_of_holds (held : Holds files path file) (overrides : Overrides) :
    settingsOf files (some path) overrides
      = Settings.resolve (file.seenFrom (SettingsFile.base path)) overrides := by
  rw [settingsOf, SettingsFile.discover, SettingsFile.load_of_holds held]
  rfl

theorem resolve_isOk_iff (file : SettingsFile) (overrides : Overrides) :
    (∃ settings, Settings.resolve file overrides = .ok settings) ↔
      (overrides.api.isSome ∨ file.api.isSome) ∧
        { name := (overrides.sdkName.or file.sdkName).getD "api"
          version := (overrides.version.or file.version).getD "0.1.0" : Sdk }.check = .ok () := by
  have named : (Settings.sdkOf file overrides).check =
      { name := (overrides.sdkName.or file.sdkName).getD "api"
        version := (overrides.version.or file.version).getD "0.1.0" : Sdk }.check := by
    rw [Settings.sdkOf, orElse_eq_or, orElse_eq_or]
    exact (Sdk.check_description _ "").symm
  have given : (overrides.api.isSome ∨ file.api.isSome) ↔
      ∃ api, (overrides.api <|> file.api) = some api := by
    cases overrides.api <;> cases file.api <;> simp
  constructor
  · rintro ⟨settings, resolved⟩
    obtain ⟨api, found, valid, -⟩ := resolve_eq_ok.mp resolved
    exact ⟨given.mpr ⟨api, found⟩, named ▸ valid⟩
  · rintro ⟨found, valid⟩
    obtain ⟨api, found⟩ := given.mp found
    exact ⟨_, resolve_eq_ok.mpr ⟨api, found, named.trans valid, rfl⟩⟩

theorem paths_of_settingsOf (held : Holds files path file)
    (settled : settingsOf files (some path) overrides = .ok settings) :
    let seen := Path.join (SettingsFile.base path)
    some settings.api = overrides.api.or (file.api.map seen) ∧
      settings.types = overrides.types.or (file.types.map seen) ∧
      settings.output = (overrides.output.or (file.output.map seen)).getD "generated" := by
  rw [settingsOf_of_holds held] at settled
  obtain ⟨api, found, -, rfl⟩ := resolve_eq_ok.mp settled
  simp only [orElse_eq_or] at found ⊢
  exact ⟨found.symm, rfl, rfl⟩

/-- A run cannot tell two settings files apart that differ only in what the command line says. There
    are settings if and only if there is an API and the package that is described is valid. The
    paths of the file are seen from its directory, those of the command line are taken as they
    are. -/
theorem settingsOf_hides (held : Holds files path file) (held' : Holds files' path other)
    (hides : overrides.Hides file other) :
    settingsOf files (some path) overrides = settingsOf files' (some path) overrides ∧
    settingsOf files (some path) overrides
      = Settings.resolve (file.seenFrom (SettingsFile.base path)) overrides ∧
    (∀ (file : SettingsFile) (overrides : Overrides),
      (∃ settings, Settings.resolve file overrides = .ok settings) ↔
        (overrides.api.isSome ∨ file.api.isSome) ∧
          { name := (overrides.sdkName.or file.sdkName).getD "api"
            version := (overrides.version.or file.version).getD "0.1.0" : Sdk }.check = .ok ()) ∧
    (∀ settings, settingsOf files (some path) overrides = .ok settings →
      let seen := Path.join (SettingsFile.base path)
      some settings.api = overrides.api.or (file.api.map seen) ∧
      settings.types = overrides.types.or (file.types.map seen) ∧
      settings.output = (overrides.output.or (file.output.map seen)).getD "generated") ∧
    ∀ written, (Path.isAbsolute written = true →
        Path.join (SettingsFile.base path) written = written) ∧
      (Path.isAbsolute written = false →
        Path.isAbsolute (Path.join (SettingsFile.base path) written)
          = Path.isAbsolute (SettingsFile.base path) ∧
        Path.names (Path.join (SettingsFile.base path) written)
          = Path.names (SettingsFile.base path) ++ Path.names written) := by
  refine ⟨?_, settingsOf_of_holds held overrides, resolve_isOk_iff,
    fun settings => paths_of_settingsOf held, fun written => ⟨fun absolute => ?_,
      fun relative => ⟨Path.isAbsolute_join _ relative, Path.names_join _ relative⟩⟩⟩
  · rw [settingsOf_of_holds held, settingsOf_of_holds held', (hides.seenFrom _).resolve_eq]
  · rw [Path.join, if_pos absolute]

/-- A directory with a settings file of this text. -/
def configured (text : String) : Files :=
  { entries := [(["conf"], .directory), (["conf", "sdkgen.json"], .file text.toUTF8)] }

/-- Two files of which one could not be used without the command line. -/
theorem settingsOf_hides_name :
    let text := "\x7b\"api\":\"api.json\",\"sdkName\":\"My SDK\",\"output\":\"a\"\x7d"
    let text' := "\x7b\"api\":\"api.json\",\"output\":\"/b\"\x7d"
    let files := configured text
    let files' := configured text'
    let overrides : Overrides := { sdkName := some "ledger", output := some "out" }
    let file : SettingsFile :=
      { api := some "api.json", sdkName := some "My SDK", output := some "a" }
    let other : SettingsFile := { api := some "api.json", output := some "/b" }
    Holds files "conf/sdkgen.json" file ∧ Holds files' "conf/sdkgen.json" other ∧
      overrides.Hides file other ∧
      settingsOf files (some "conf/sdkgen.json") overrides
        = settingsOf files' (some "conf/sdkgen.json") overrides ∧
      ∃ settings, settingsOf files (some "conf/sdkgen.json") overrides = .ok settings ∧
        settings.api = "conf/api.json" ∧ settings.output = "out" := by
  intro text text' files files' overrides file other
  have held : Holds files "conf/sdkgen.json" file := ⟨text, by decide +kernel, by decide +kernel⟩
  have held' : Holds files' "conf/sdkgen.json" other :=
    ⟨text', by decide +kernel, by decide +kernel⟩
  have hides : overrides.Hides file other := by
    constructor <;> first | exact fun _ => rfl | exact rfl | nofun
  obtain ⟨same, resolved, accepted, paths, -⟩ := settingsOf_hides held held' hides
  have valid : (Sdk.mk "ledger" "0.1.0" "").check = .ok () := by decide +kernel
  obtain ⟨settings, settled⟩ := (accepted (file.seenFrom _) overrides).mpr ⟨.inr rfl, valid⟩
  rw [← resolved] at settled
  obtain ⟨api, -, output⟩ := paths settings settled
  refine ⟨held, held', hides, same, settings, settled, ?_, output⟩
  exact Option.some.inj (api.trans (by decide +kernel))

end Command

end ClientGen
