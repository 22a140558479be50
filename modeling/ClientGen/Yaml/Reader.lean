import ClientGen.Yaml.Document
import ClientGen.Yaml.Scalar

/-! # YAML text to values

A text holds one document. Keys are texts whatever they look like, of several equal keys the last
counts, and an alias stands for a copy of its node. Nodes with tags of the text's own have no
value.
-/

namespace ClientGen.Yaml

/-- Where in a document a node stands. -/
inductive Path where
  | root
  | item (parent : Path) (index : Nat)
  | field (parent : Path) (key : String)
  /-- The value of a key that is an alias. -/
  | unknown (parent : Path)

namespace Path

/-- The path in front of a key. -/
def lead (path : Path) (shown : String) : String :=
  match path with
  | .root => ""
  | _ => shown ++ "."

def shown : Path → String
  | .root => "."
  | .item parent index => parent.shown ++ "[" ++ toString index ++ "]"
  | .field parent key => parent.lead parent.shown ++ key
  | .unknown parent => parent.lead parent.shown ++ "?"

/-- The path in front of a message; the root is not mentioned. -/
def inMessage (path : Path) : String :=
  match path with
  | .root => ""
  | _ => path.shown

end Path

/-- Whether a tag is one of the text's own. It has to be valid UTF-8. -/
def isLocalTag (tag : Tag) : Bool :=
  match tag with
  | '!' :: rest => (ByteArray.mk (rest.map fun c => c.toNat.toUInt8).toArray).validateUTF8
  | _ => false

/-- The next unread part, and how many aliases have been followed. -/
structure Progress where
  position : Nat := 0
  jumps : Nat := 0

namespace Progress

def next (progress : Progress) : Progress :=
  { progress with position := progress.position + 1 }

/-- Go on behind an alias once its node has been read. -/
def back (progress : Progress) (position : Nat) : Progress :=
  { progress with position }

end Progress

namespace Document

def part (document : Document) (progress : Progress) : Except ReadError (Part × Mark) :=
  match document.parts[progress.position]? with
  | some part => .ok part
  | none => .error (document.fault.getD .endOfText)

/-- Aliases that are followed for every part of a document. -/
def jumpsPerPart : Nat := 100

/-- Move to the node of an alias. -/
def jump (document : Document) (anchor : Nat) (progress : Progress) : Except ReadError Progress :=
  let jumps := progress.jumps + 1
  if document.parts.size * jumpsPerPart < jumps then .error .tooManyAliases
  else .ok ⟨(document.start? anchor).getD document.parts.size, jumps⟩

def refuse (message : String) (path : Path) (mark : Mark) : Except ReadError α :=
  .error (.unwanted message path.inMessage mark)

/-- A key, which is a scalar or the alias of one. -/
def readKey (document : Document) (path : Path) (first : Bool) : Nat → Progress →
    Except ReadError (String × Progress)
  | 0, _ => .error .tooManyAliases
  | fuel + 1, progress => do
    let expected := if first then "a string key" else "a string"
    let (part, mark) ← document.part progress
    match part with
    | .scalar _ text _ => return (text, progress.next)
    | .alias anchor =>
      let (key, there) ← readKey document path first fuel (← document.jump anchor progress)
      return (key, there.back (progress.position + 1))
    | .sequenceStart _ | .sequenceEnd =>
      refuse ("invalid type: sequence, expected " ++ expected) path mark
    | .mappingStart _ | .mappingEnd =>
      refuse ("invalid type: map, expected " ++ expected) path mark
    | .absent => .error .endOfText

/-- A tag of the text's own makes a node one of an enumeration, which no value is. -/
def checkTag (tag : Option Tag) (path : Path) (mark : Mark) : Except ReadError Unit :=
  if tag.any isLocalTag then refuse "invalid type: enum, expected any valid JSON value" path mark
  else .ok ()

mutual

/-- A node in at most `depth` further levels of collections. -/
def readNode (document : Document) : Nat → Nat → Path → Progress →
    Except ReadError (Json × Progress)
  | 0, _, _, _ => .error .tooManyAliases
  | fuel + 1, depth, path, progress => do
    let (part, mark) ← document.part progress
    match part with
    | .absent | .sequenceEnd | .mappingEnd => return (.null, progress.next)
    | .alias anchor =>
      let (value, there) ← readNode document fuel depth path (← document.jump anchor progress)
      return (value, there.back (progress.position + 1))
    | .scalar tag text plain =>
      checkTag tag path mark
      match scalarValue tag text plain with
      | .ok value => return (value, progress.next)
      | .error message => refuse message path mark
    | .sequenceStart tag =>
      checkTag tag path mark
      if depth = 0 then .error (.tooDeep mark)
      else
        let (items, progress) ← readItems document fuel (depth - 1) path 0 progress.next
        return (.arr items, progress)
    | .mappingStart tag =>
      checkTag tag path mark
      if depth = 0 then .error (.tooDeep mark)
      else
        let (fields, progress) ← readFields document fuel (depth - 1) path true [] progress.next
        return (.obj fields, progress)

/-- The items of a sequence from the `index`-th on, and its end. -/
def readItems (document : Document) : Nat → Nat → Path → Nat → Progress →
    Except ReadError (List Json × Progress)
  | 0, _, _, _, _ => .error .tooManyAliases
  | fuel + 1, depth, path, index, progress => do
    match (← document.part progress).1 with
    | .sequenceEnd => return ([], progress.next)
    | _ =>
      let (item, progress) ← readNode document fuel depth (.item path index) progress
      let (items, progress) ← readItems document fuel depth path (index + 1) progress
      return (item :: items, progress)

/-- The fields of a mapping and its end, added to the fields before them. -/
def readFields (document : Document) : Nat → Nat → Path → Bool → List (String × Json) → Progress →
    Except ReadError (List (String × Json) × Progress)
  | 0, _, _, _, _, _ => .error .tooManyAliases
  | fuel + 1, depth, path, first, fields, progress => do
    let (part, _) ← document.part progress
    match part with
    | .mappingEnd => return (fields, progress.next)
    | part =>
      let (key, progress) ← document.readKey path first 2 progress
      let inner := match part with
        | .scalar .. => Path.field path key
        | _ => Path.unknown path
      let (value, progress) ← readNode document fuel depth inner progress
      readFields document fuel depth path false (Json.insertField key value fields) progress

end

/-- Levels of collections that a document may have. -/
def maxDepth : Nat := 128

/-- Steps that suffice on every way from the root of a document to a node of it, where each level
    can be entered through an alias. -/
def budget (document : Document) : Nat :=
  (maxDepth + 2) * (document.parts.size + 3)

def value (document : Document) : Except ReadError Json := do
  let (value, _) ← readNode document document.budget maxDepth .root {}
  match document.fault with
  | some fault => .error fault
  | none => return value

end Document

/-- How many bytes come before the first character that no text may hold. -/
def forbiddenOffset? (offset : Nat) : List Char → Option Nat
  | [] => none
  | c :: rest =>
    if isAllowed c then forbiddenOffset? (offset + c.utf8Size) rest else some offset

/-- The value that a whole text holds. -/
def parse (s : String) : Except ReadError Json :=
  match forbiddenOffset? 0 s.toList with
  | some offset => .error (.controlCharacter offset)
  | none => do
    let text := match s.toList with
      | c :: rest => if c = byteOrderMark then rest else c :: rest
      | [] => []
    let budget := eventBudget text
    match Document.next true budget (.ofText text) with
    | none => .error .endOfText
    | some (document, stream) =>
      let value ← document.value
      match Document.next false budget stream with
      | none => return value
      | some _ => .error .severalDocuments

end ClientGen.Yaml
