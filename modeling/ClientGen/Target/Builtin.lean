import ClientGen.Target.Dart
import ClientGen.Target.Go
import ClientGen.Target.Python
import ClientGen.Target.Rust

/-! # Built-in targets -/

namespace ClientGen.Target

/-- Languages that have a built-in target. -/
def builtinLanguages : List String :=
  [Dart.language, Python.language, Rust.language, Go.language]

/-- The built-in target of a language. -/
def builtin (language : String) (sdk : Sdk) : Except GenerationError Target :=
  match language with
  | "dart" => Dart.target sdk
  | "python" => Python.target sdk
  | "rust" => Rust.target sdk
  | "go" => Go.target sdk
  | language => .error (.unsupportedLanguage language builtinLanguages)

end ClientGen.Target
