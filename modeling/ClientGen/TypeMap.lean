/-! # Target types

For each target language the type that stands for a primitive type of the description.
-/

namespace ClientGen.TypeMap

/-- Pairs of a primitive type and the type that stands for it. -/
abbrev Table := List (String × String)

def dart : Table := [
  ("string", "String"), ("int", "int"), ("uint", "int"), ("uint32", "int"), ("uint64", "int"),
  ("int32", "int"), ("int64", "int"), ("bool", "bool"), ("float64", "double"),
  ("float32", "double"), ("[]byte", "Uint8List"), ("time.Time", "DateTime")]

def python : Table := [
  ("string", "str"), ("int", "int"), ("uint", "int"), ("uint32", "int"), ("uint64", "int"),
  ("int32", "int"), ("int64", "int"), ("bool", "bool"), ("float64", "float"),
  ("float32", "float"), ("[]byte", "bytes"), ("time.Time", "datetime.datetime")]

def rust : Table := [
  ("string", "String"), ("int", "i64"), ("uint", "u64"), ("uint32", "u32"), ("uint64", "u64"),
  ("int32", "i32"), ("int64", "i64"), ("bool", "bool"), ("float64", "f64"), ("float32", "f32"),
  ("[]byte", "Vec<u8>"), ("time.Time", "chrono::DateTime<chrono::Utc>")]

/-- The table of a language. Primitive types have Go's names, so Go needs none. -/
def table? (language : String) : Option Table :=
  [("dart", dart), ("python", python), ("rust", rust)].lookup language

/-- The type that stands for `source`; a type that no table lists stands for itself. -/
def target (source language : String) : String :=
  ((table? language).bind (·.lookup source)).getD source

end ClientGen.TypeMap
