import ClientGen.Yaml.Cursor

/-! # Tokens of a YAML text -/

namespace ClientGen.Yaml

/-- A tag as it is written: a handle and what follows it. An empty handle means that the rest is
    the whole tag. Both are made of bytes, a character for each. -/
structure TagText where
  handle : List Char
  rest : List Char
  deriving Repr, DecidableEq

/-- The smallest pieces of a text that mean something. -/
inductive Token where
  | streamEnd
  | version (major minor : Nat)
  | tagDirective (handle meaning : List Char)
  | documentStart | documentEnd
  | blockSequenceStart | blockMappingStart | blockEnd
  | flowSequenceStart | flowSequenceEnd | flowMappingStart | flowMappingEnd
  | blockEntry | flowEntry
  | key | value
  | alias (name : List Char)
  | anchor (name : List Char)
  | tag (text : TagText)
  /-- Only a plain scalar can be something other than a text. -/
  | scalar (text : List Char) (plain : Bool)
  deriving Repr, DecidableEq

/-- A token and where it starts. -/
structure Placed where
  token : Token
  mark : Mark
  deriving Repr, DecidableEq

end ClientGen.Yaml
