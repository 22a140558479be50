import ClientGen.Yaml.Event

/-! # Documents of a YAML text

The events of one document up to its end or the first fault, with its aliases resolved to the
places of the nodes that they stand for.
-/

namespace ClientGen.Yaml

/-- A part of a document. An alias knows the number of its anchor. -/
inductive Part where
  | alias (anchor : Nat)
  | scalar (tag : Option Tag) (text : String) (plain : Bool)
  | sequenceStart (tag : Option Tag)
  | sequenceEnd
  | mappingStart (tag : Option Tag)
  | mappingEnd
  /-- Stands alone in a text without any document. -/
  | absent
  deriving Repr, DecidableEq, Inhabited

/-- The parts of a document in order. -/
structure Document where
  parts : Array (Part × Mark) := #[]
  /-- Where the anchored nodes start, by the numbers of the anchors; the latest entry counts. -/
  anchored : List (Nat × Nat) := []
  /-- What is wrong behind the last part. -/
  fault : Option ReadError := none

namespace Document

def push (part : Part) (mark : Mark) (document : Document) : Document :=
  { document with parts := document.parts.push (part, mark) }

/-- Names of anchors and their numbers. -/
abbrev Anchors := List (List Char × Nat)

/-- Number an anchor by how many other names there are, and note where its node starts. A name
    that occurs again may so share its number with a later name. -/
def define (anchors : Anchors) (anchor : Option (List Char)) (document : Document) :
    Anchors × Document :=
  match anchor with
  | none => (anchors, document)
  | some name =>
    let number := anchors.length
    ((name, number) :: anchors.filter (·.1 ≠ name),
      { document with anchored := (number, document.parts.size) :: document.anchored })

/-- Read a document to its end. None if the stream ends before a document starts. -/
def read (first : Bool) : Nat → Anchors → Document → EventStream →
    Option (Document × EventStream)
  | 0, _, document, stream => some (document, stream)
  | fuel + 1, anchors, document, stream =>
    match stream.next with
    | .error fault => some ({ document with fault := some (.malformed fault) }, stream)
    | .ok (event, mark, stream) =>
      match event with
      | .streamEnd =>
        if !first then none
        else if document.parts.isEmpty then some (document.push .absent mark, stream)
        else some (document, stream)
      | .documentStart => read first fuel anchors document stream
      | .documentEnd => some (document, stream)
      | .alias name =>
        match anchors.lookup name with
        | some number => read first fuel anchors (document.push (.alias number) mark) stream
        | none => some ({ document with fault := some (.unknownAnchor mark) }, stream)
      | .scalar marks text plain =>
        let (anchors, document) := document.define anchors marks.anchor
        let part := .scalar marks.tag (String.ofList text) plain
        read first fuel anchors (document.push part mark) stream
      | .sequenceStart marks =>
        let (anchors, document) := document.define anchors marks.anchor
        read first fuel anchors (document.push (.sequenceStart marks.tag) mark) stream
      | .mappingStart marks =>
        let (anchors, document) := document.define anchors marks.anchor
        read first fuel anchors (document.push (.mappingStart marks.tag) mark) stream
      | .sequenceEnd => read first fuel anchors (document.push .sequenceEnd mark) stream
      | .mappingEnd => read first fuel anchors (document.push .mappingEnd mark) stream

/-- Where the node of an anchor starts. -/
def start? (document : Document) (anchor : Nat) : Option Nat :=
  document.anchored.lookup anchor

end Document

/-- Events that a text can have at most: every character accounts for a few. -/
def eventBudget (text : List Char) : Nat :=
  8 * text.length + 16

/-- The next document of a text. -/
def Document.next (first : Bool) (budget : Nat) (stream : EventStream) :
    Option (Document × EventStream) :=
  Document.read first budget [] {} stream

end ClientGen.Yaml
