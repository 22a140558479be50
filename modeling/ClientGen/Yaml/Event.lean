import ClientGen.Yaml.Token.Stream

/-! # Structure of a YAML text

The nodes of a text in the order in which they start and end. The grammar is read one event at a
time, so that what comes before a fault is known.
-/

namespace ClientGen.Yaml

/-- A tag with its handle resolved, made of bytes, a character for each. -/
abbrev Tag := List Char

/-- What may be written in front of a node. -/
structure NodeMarks where
  anchor : Option (List Char) := none
  tag : Option Tag := none
  deriving Repr, DecidableEq

inductive Event where
  | streamEnd
  | documentStart | documentEnd
  | alias (name : List Char)
  | scalar (marks : NodeMarks) (text : List Char) (plain : Bool)
  | sequenceStart (marks : NodeMarks)
  | sequenceEnd
  | mappingStart (marks : NodeMarks)
  | mappingEnd
  deriving Repr, DecidableEq

/-- What comes next by the rules of the grammar. -/
inductive Expectation where
  /-- A document, which needs no indicator if it is the first. -/
  | document (first : Bool)
  | documentContent | documentEnd
  | blockNode
  /-- An entry of a sequence in a block of its own. -/
  | blockEntry (start : Mark)
  /-- An entry of a sequence in the column of the mapping around it. -/
  | indentlessEntry
  | blockKey (start : Mark)
  | blockValue (start : Mark)
  | flowEntry (first : Bool) (start : Mark)
  /-- The parts of a mapping of one pair, which is written as an entry of a sequence. -/
  | pairKey | pairValue | pairEnd
  | flowKey (first : Bool) (start : Mark)
  | flowValue (start : Mark)
  /-- The value of a key without a colon. -/
  | noValue (start : Mark)
  | nothing
  deriving Repr, DecidableEq

/-- Tag handles and what they stand for. -/
abbrev Handles := List (List Char × List Char)

def standardHandles : Handles :=
  [(['!'], ['!']), (['!', '!'], "tag:yaml.org,2002:".toList)]

/-- The unread tokens, what they have to be, and the tag handles of the document. -/
structure EventStream where
  tokens : TokenStream
  expected : Expectation := .document true
  /-- What is expected behind that, the innermost first. -/
  later : List Expectation := []
  handles : Handles := []

namespace EventStream

/-- An event and where its node starts. -/
abbrev Step := Except Fault (Event × Mark × EventStream)

def ofText (text : List Char) : EventStream :=
  { tokens := .ofCursor { rest := text } }

def peek (stream : EventStream) : Except Fault (Placed × EventStream) := do
  let (token, tokens) ← stream.tokens.peek
  return (token, { stream with tokens })

def drop (stream : EventStream) : EventStream :=
  { stream with tokens := stream.tokens.drop }

def expect (expected : Expectation) (stream : EventStream) : EventStream :=
  { stream with expected }

/-- Expect something behind the next node. -/
def after (next : Expectation) (stream : EventStream) : EventStream :=
  { stream with later := next :: stream.later }

/-- Go on with what is expected behind the node that ends here. -/
def pop (stream : EventStream) : EventStream :=
  match stream.later with
  | [] => stream.expect .nothing
  | expected :: later => { stream with expected, later }

def fail (problem : Problem) (mark : Mark) (during : Option (Activity × Mark) := none) :
    Except Fault α :=
  .error ⟨problem, mark, during⟩

/-- A node that is left out. -/
def emptyNode (mark : Mark) (stream : EventStream) : Step :=
  .ok (.scalar {} [] true, mark, stream)

/-- The tag that a written tag stands for. A null byte ends it. -/
def resolveTag (text : TagText) (start mark : Mark) (stream : EventStream) : Except Fault Tag :=
  let tag := fun (meaning : List Char) =>
    meaning ++ text.rest.takeWhile (· ≠ '\x00')
  if text.handle.isEmpty then .ok (tag [])
  else
    match stream.handles.lookup text.handle with
    | some meaning => .ok (tag meaning)
    | none => fail .undefinedHandle mark (some (.node, start))

/-- The tag of a node, if one is written here. -/
def readTagMark (stream : EventStream) :
    Except Fault (Option (TagText × Mark) × EventStream) := do
  let (placed, stream) ← stream.peek
  match placed.token with
  | .tag text => return (some (text, placed.mark), stream.drop)
  | _ => return (none, stream)

/-- The anchor of a node, if one is written here. -/
def readAnchorMark (stream : EventStream) :
    Except Fault (Option (List Char) × EventStream) := do
  let (placed, stream) ← stream.peek
  match placed.token with
  | .anchor name => return (some name, stream.drop)
  | _ => return (none, stream)

/-- An anchor and a tag in any order. What follows them is read before the tag is resolved. -/
def readMarks (start : Mark) (stream : EventStream) :
    Except Fault (NodeMarks × EventStream) := do
  let (anchor, stream) ← stream.readAnchorMark
  let (tag, stream) ← stream.readTagMark
  let (anchor, stream) ←
    if anchor.isSome || tag.isNone then
      (.ok (anchor, stream) : Except Fault (Option (List Char) × EventStream))
    else stream.readAnchorMark
  let (_, stream) ← stream.peek
  match tag with
  | none => return ({ anchor }, stream)
  | some (text, mark) => return ({ anchor, tag := ← stream.resolveTag text start mark }, stream)

/-- A node. Blocks may be meant only outside of brackets, and a sequence without a block of its
    own only in a mapping. -/
def readNode (block indentless : Bool) (stream : EventStream) : Step := do
  let (first, stream) ← stream.peek
  match first.token with
  | .alias name => return (.alias name, first.mark, stream.drop.pop)
  | _ =>
    let start := first.mark
    let (marks, stream) ← stream.readMarks start
    let (placed, stream) ← stream.peek
    let here := placed.mark
    match placed.token with
    | .scalar text plain =>
      let noTag := marks.tag = some ['!']
      let marks := if noTag then { marks with tag := none } else marks
      return (.scalar marks text plain, start, stream.drop.pop)
    | .flowSequenceStart =>
      return (.sequenceStart marks, start, stream.drop.expect (.flowEntry true here))
    | .flowMappingStart =>
      return (.mappingStart marks, start, stream.drop.expect (.flowKey true here))
    | token =>
      if indentless && token = .blockEntry then
        return (.sequenceStart marks, start, stream.expect .indentlessEntry)
      else if block && token = .blockSequenceStart then
        return (.sequenceStart marks, start, stream.drop.expect (.blockEntry here))
      else if block && token = .blockMappingStart then
        return (.mappingStart marks, start, stream.drop.expect (.blockKey here))
      else if marks.anchor.isSome || marks.tag.isSome then
        return (.scalar marks [] true, start, stream.pop)
      else
        fail .contentExpected here (some (if block then .blockNode else .flowNode, start))

/-- A node, or an empty one if a token follows that cannot start one. -/
def readNodeUnless (ends : List Token) (next : Expectation) (block indentless : Bool) (mark : Mark)
    (stream : EventStream) : Step := do
  let (placed, stream) ← stream.peek
  if ends.contains placed.token then (stream.expect next).emptyNode mark
  else (stream.after next).readNode block indentless

/-- The directives in front of a document. -/
def readDirectives : Nat → Bool → EventStream → Except Fault EventStream
  | 0, _, stream => .ok stream
  | fuel + 1, versioned, stream => do
    let (placed, stream) ← stream.peek
    match placed.token with
    | .version major minor =>
      if versioned then fail .duplicateVersion placed.mark
      else if major != 1 || (minor != 1 && minor != 2) then
        fail .incompatibleVersion placed.mark
      else readDirectives fuel true stream.drop
    | .tagDirective handle meaning =>
      if (stream.handles.lookup handle).isSome then fail .duplicateHandle placed.mark
      else
        readDirectives fuel versioned
          { stream.drop with handles := stream.handles ++ [(handle, meaning)] }
    | _ => return stream

/-- Move past the indicators that end the document before. -/
def skipDocumentEnds : Nat → EventStream → Except Fault EventStream
  | 0, stream => .ok stream
  | fuel + 1, stream => do
    let (placed, stream) ← stream.peek
    if placed.token = .documentEnd then skipDocumentEnds fuel stream.drop else return stream

def budget (stream : EventStream) : Nat :=
  stream.tokens.cursor.budget + stream.tokens.waiting.length

/-- The handles of a document, with the standard ones for those it does not define. -/
def withStandardHandles (stream : EventStream) : EventStream :=
  { stream with handles := stream.handles ++ standardHandles }

def readDocument (first : Bool) (stream : EventStream) : Step := do
  let stream ← if first then .ok stream else stream.skipDocumentEnds stream.budget
  let (placed, stream) ← stream.peek
  match placed.token with
  | .streamEnd => return (.streamEnd, placed.mark, stream.drop.expect .nothing)
  | token =>
    let explicit := match token with
      | .version .. | .tagDirective .. | .documentStart => true
      | _ => !first
    let stream ← if explicit then stream.readDirectives stream.budget false else .ok stream
    let stream := (stream.withStandardHandles).after .documentEnd
    if explicit then
      let (start, stream) ← stream.peek
      if start.token = .documentStart then
        return (.documentStart, placed.mark, stream.drop.expect .documentContent)
      else fail .documentStartExpected start.mark
    else return (.documentStart, placed.mark, stream.expect .blockNode)

/-- Whether a token ends a document that has no content. -/
def endsDocument : Token → Bool
  | .version .. | .tagDirective .. | .documentStart | .documentEnd | .streamEnd => true
  | _ => false

def readContent (stream : EventStream) : Step := do
  let (placed, stream) ← stream.peek
  if endsDocument placed.token then stream.pop.emptyNode placed.mark
  else stream.readNode true false

def readDocumentEnd (stream : EventStream) : Step := do
  let (placed, stream) ← stream.peek
  let stream := if placed.token = .documentEnd then stream.drop else stream
  return (.documentEnd, placed.mark, { stream.expect (.document false) with handles := [] })

def readBlockEntry (start : Mark) (stream : EventStream) : Step := do
  let (placed, stream) ← stream.peek
  match placed.token with
  | .blockEntry =>
    stream.drop.readNodeUnless [.blockEntry, .blockEnd] (.blockEntry start) true false placed.mark
  | .blockEnd => return (.sequenceEnd, placed.mark, stream.drop.pop)
  | _ => fail .dashExpected placed.mark (some (.blockCollection, start))

def readIndentlessEntry (stream : EventStream) : Step := do
  let (placed, stream) ← stream.peek
  match placed.token with
  | .blockEntry =>
    stream.drop.readNodeUnless [.blockEntry, .key, .value, .blockEnd] .indentlessEntry true false
      placed.mark
  | _ => return (.sequenceEnd, placed.mark, stream.pop)

def readBlockKey (start : Mark) (stream : EventStream) : Step := do
  let (placed, stream) ← stream.peek
  match placed.token with
  | .key =>
    stream.drop.readNodeUnless [.key, .value, .blockEnd] (.blockValue start) true true placed.mark
  | .blockEnd => return (.mappingEnd, placed.mark, stream.drop.pop)
  | _ => fail .keyExpected placed.mark (some (.blockMapping, start))

def readBlockValue (start : Mark) (stream : EventStream) : Step := do
  let (placed, stream) ← stream.peek
  match placed.token with
  | .value =>
    stream.drop.readNodeUnless [.key, .value, .blockEnd] (.blockKey start) true true placed.mark
  | _ => (stream.expect (.blockKey start)).emptyNode placed.mark

/-- Move past the comma that separates entries, unless the collection ends here. -/
def readComma (first : Bool) (closing : Token) (problem : Problem) (activity : Activity)
    (start : Mark) (stream : EventStream) : Except Fault (Placed × EventStream) := do
  let (placed, stream) ← stream.peek
  if first || placed.token = closing then return (placed, stream)
  else if placed.token = .flowEntry then stream.drop.peek
  else fail problem placed.mark (some (activity, start))

def readFlowEntry (first : Bool) (start : Mark) (stream : EventStream) : Step := do
  let (placed, stream) ←
    stream.readComma first .flowSequenceEnd .commaOrBracketExpected .flowSequence start
  match placed.token with
  | .flowSequenceEnd => return (.sequenceEnd, placed.mark, stream.drop.pop)
  | .key =>
    return (.mappingStart {}, placed.mark,
      (stream.drop.after (.flowEntry false start)).expect .pairKey)
  | _ => (stream.after (.flowEntry false start)).readNode false false

/-- The key of a pair. A token in place of the key is dropped. -/
def readPairKey (stream : EventStream) : Step := do
  let (placed, stream) ← stream.peek
  if [Token.value, .flowEntry, .flowSequenceEnd].contains placed.token then
    (stream.drop.expect .pairValue).emptyNode placed.mark
  else (stream.after .pairValue).readNode false false

def readPairValue (stream : EventStream) : Step := do
  let (placed, stream) ← stream.peek
  match placed.token with
  | .value =>
    let stream := stream.drop
    let (placed, stream) ← stream.peek
    stream.readNodeUnless [.flowEntry, .flowSequenceEnd] .pairEnd false false placed.mark
  | _ => (stream.expect .pairEnd).emptyNode placed.mark

def readPairEnd (stream : EventStream) : Step := do
  let (placed, stream) ← stream.peek
  return (.mappingEnd, placed.mark, stream.pop)

def readFlowKey (first : Bool) (start : Mark) (stream : EventStream) : Step := do
  let (placed, stream) ←
    stream.readComma first .flowMappingEnd .commaOrBraceExpected .flowMapping start
  match placed.token with
  | .flowMappingEnd => return (.mappingEnd, placed.mark, stream.drop.pop)
  | .key =>
    let (placed, stream) ← stream.drop.peek
    stream.readNodeUnless [.value, .flowEntry, .flowMappingEnd] (.flowValue start) false false
      placed.mark
  | _ => (stream.after (.noValue start)).readNode false false

def readFlowValue (start : Mark) (stream : EventStream) : Step := do
  let (placed, stream) ← stream.peek
  match placed.token with
  | .value =>
    let (placed, stream) ← stream.drop.peek
    stream.readNodeUnless [.flowEntry, .flowMappingEnd] (.flowKey false start) false false
      placed.mark
  | _ => (stream.expect (.flowKey false start)).emptyNode placed.mark

def readNoValue (start : Mark) (stream : EventStream) : Step := do
  let (placed, stream) ← stream.peek
  (stream.expect (.flowKey false start)).emptyNode placed.mark

/-- The next event. -/
def next (stream : EventStream) : Step :=
  match stream.expected with
  | .document first => stream.readDocument first
  | .documentContent => stream.readContent
  | .documentEnd => stream.readDocumentEnd
  | .blockNode => stream.readNode true false
  | .blockEntry start => stream.readBlockEntry start
  | .indentlessEntry => stream.readIndentlessEntry
  | .blockKey start => stream.readBlockKey start
  | .blockValue start => stream.readBlockValue start
  | .flowEntry first start => stream.readFlowEntry first start
  | .pairKey => stream.readPairKey
  | .pairValue => stream.readPairValue
  | .pairEnd => stream.readPairEnd
  | .flowKey first start => stream.readFlowKey first start
  | .flowValue start => stream.readFlowValue start
  | .noValue start => stream.readNoValue start
  | .nothing => .ok (.streamEnd, stream.tokens.mark, stream)

end EventStream

end ClientGen.Yaml
