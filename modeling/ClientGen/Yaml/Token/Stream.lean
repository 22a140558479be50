import ClientGen.Yaml.Token.Block
import ClientGen.Yaml.Token.Plain
import ClientGen.Yaml.Token.Quoted

/-! # Tokens on demand

Tokens are read no further than necessary. Whether a node is the key of a mapping shows only at
the colon behind it, so a token that could start a key is held back until that is decided; the
tokens that a key implies are then put in front of it.
-/

namespace ClientGen.Yaml

/-- A place where a key without an indicator may have started. -/
structure PossibleKey where
  /-- Number of its first token. -/
  number : Nat
  mark : Mark
  /-- Nothing but a key can stand here. -/
  required : Bool
  deriving Repr, DecidableEq

/-- The unread text, and the tokens that are read but not handed out. -/
structure TokenStream where
  cursor : Cursor
  /-- Tokens that are not handed out yet. -/
  waiting : List Placed := []
  /-- How many tokens have been handed out. -/
  taken : Nat := 0
  /-- Columns of the open blocks, the innermost first. -/
  blocks : List Nat := []
  /-- Whether a key may start at the next token. -/
  keyAllowed : Bool := true
  /-- A key that may have started on this level of brackets. -/
  possibleKey : Option PossibleKey := none
  /-- The same for the levels around it, the innermost first. -/
  outerKeys : List (Option PossibleKey) := []

namespace TokenStream

def ofCursor (cursor : Cursor) : TokenStream :=
  { cursor }

/-- Whether brackets are open. -/
def inFlow (stream : TokenStream) : Bool :=
  !stream.outerKeys.isEmpty

def mark (stream : TokenStream) : Mark :=
  stream.cursor.mark

/-- Column from which on a line belongs to the innermost block. -/
def innerColumn (stream : TokenStream) : Nat :=
  match stream.blocks with
  | [] => 0
  | column :: _ => column + 1

/-- Add a token. -/
def push (token : Token) (mark : Mark) (stream : TokenStream) : TokenStream :=
  { stream with waiting := stream.waiting ++ [⟨token, mark⟩] }

/-- Put a token in front of the one with a number. -/
def insertAt (number : Nat) (token : Token) (mark : Mark) (stream : TokenStream) : TokenStream :=
  let index := number - stream.taken
  { stream with
    waiting := stream.waiting.take index ++ ⟨token, mark⟩ :: stream.waiting.drop index }

/-- Add a token of some width that starts here. -/
def pushHere (token : Token) (width : Nat) (stream : TokenStream) : TokenStream :=
  { stream.push token stream.mark with cursor := stream.cursor.skip width }

/-- A key that is given up must not have been required. -/
def giveUp (stream : TokenStream) : Option PossibleKey → Except Fault Unit
  | some key =>
    if key.required then stream.cursor.fail .colonMissing .simpleKey key.mark else .ok ()
  | none => .ok ()

def dropKey (stream : TokenStream) : Except Fault TokenStream := do
  stream.giveUp stream.possibleKey
  return { stream with possibleKey := none }

/-- The next token may start a key, if keys are allowed here. -/
def saveKey (stream : TokenStream) : Except Fault TokenStream :=
  if !stream.keyAllowed then .ok stream
  else do
    let required := !stream.inFlow && stream.blocks.head? = some stream.mark.column
    let number := stream.taken + stream.waiting.length
    let stream ← stream.dropKey
    return { stream with possibleKey := some { number, mark := stream.mark, required } }

/-- Most characters that a key can have. -/
def maxKeyLength : Nat := 1024

/-- A key ends on its line and is not too long. -/
def isStale (stream : TokenStream) (key : PossibleKey) : Bool :=
  key.mark.line < stream.mark.line || key.mark.index + maxKeyLength < stream.mark.index

/-- Keep a possible key unless it cannot be one any more. -/
def refresh (stream : TokenStream) : Option PossibleKey → Except Fault (Option PossibleKey)
  | some key =>
    if stream.isStale key then do
      stream.giveUp (some key)
      return none
    else .ok (some key)
  | none => .ok none

/-- Forget the keys that cannot be keys any more. -/
def dropStale (stream : TokenStream) : Except Fault TokenStream := do
  let outerKeys ← stream.outerKeys.mapM stream.refresh
  let possibleKey ← stream.refresh stream.possibleKey
  return { stream with outerKeys, possibleKey }

/-- Close the blocks that stand further right than a column. -/
def closeBlocks (keep : Nat → Bool) (stream : TokenStream) : TokenStream :=
  if stream.inFlow then stream
  else
    let closed := stream.blocks.takeWhile (!keep ·)
    { stream with
      blocks := stream.blocks.drop closed.length
      waiting := stream.waiting ++ closed.map fun _ => ⟨.blockEnd, stream.mark⟩ }

/-- Open a block in a column unless one is open there. Its token goes to the place of token
    `number`. -/
def openBlock (token : Token) (mark : Mark) (number : Nat) (stream : TokenStream) : TokenStream :=
  if !stream.inFlow && stream.innerColumn ≤ mark.column then
    { stream.insertAt number token mark with blocks := mark.column :: stream.blocks }
  else stream

/-- Open a block at the next token. -/
def openBlockHere (token : Token) (stream : TokenStream) : TokenStream :=
  stream.openBlock token stream.mark (stream.taken + stream.waiting.length)

/-- Move past blanks, comments and line ends. -/
def skipToToken : Nat → TokenStream → TokenStream
  | 0, stream => stream
  | fuel + 1, stream =>
    let cursor := stream.cursor
    let cursor :=
      if cursor.mark.column = 0 && cursor.rest.head? = some byteOrderMark then cursor.next
      else cursor
    let tabs := stream.inFlow || !stream.keyAllowed
    let cursor := (cursor.skipWhile fun c => c = ' ' || (tabs && c = '\t')).skipComment
    if cursor.rest.head?.any isBreak then
      skipToToken fuel
        { stream with cursor := cursor.skipBreak, keyAllowed := stream.keyAllowed || !stream.inFlow }
    else { stream with cursor }

/-- The end of the text closes everything. -/
def readEnd (stream : TokenStream) : Except Fault TokenStream := do
  let mark := stream.mark
  let mark := if mark.column = 0 then mark else { mark with line := mark.line + 1, column := 0 }
  let stream := { stream with cursor := { stream.cursor with mark } }
  let stream ← (stream.closeBlocks fun _ => false).dropKey
  return { stream.push .streamEnd mark with keyAllowed := false }

/-- A directive or a document indicator, in front of which all blocks end. -/
def readBetween (read : Cursor → Except Fault (Token × Cursor)) (stream : TokenStream) :
    Except Fault TokenStream := do
  let stream ← (stream.closeBlocks fun _ => false).dropKey
  let (token, cursor) ← read stream.cursor
  return { stream.push token stream.mark with cursor, keyAllowed := false }

def readFlowStart (token : Token) (stream : TokenStream) : Except Fault TokenStream := do
  let stream ← stream.saveKey
  return { stream.pushHere token 1 with
    outerKeys := stream.possibleKey :: stream.outerKeys, possibleKey := none, keyAllowed := true }

def readFlowEnd (token : Token) (stream : TokenStream) : Except Fault TokenStream := do
  let stream ← stream.dropKey
  let stream := match stream.outerKeys with
    | [] => stream
    | key :: outer => { stream with possibleKey := key, outerKeys := outer }
  return { stream.pushHere token 1 with keyAllowed := false }

def readFlowEntry (stream : TokenStream) : Except Fault TokenStream := do
  let stream ← stream.dropKey
  return { stream.pushHere .flowEntry 1 with keyAllowed := true }

/-- Report an indicator that is not allowed here. -/
def refuse (stream : TokenStream) (problem : Problem) : Except Fault α :=
  .error ⟨problem, stream.mark, none⟩

/-- The dash of an entry. Between brackets it is left to the grammar to refuse it. -/
def readBlockEntry (stream : TokenStream) : Except Fault TokenStream := do
  if !stream.inFlow && !stream.keyAllowed then stream.refuse .entryNotAllowed
  else
    let stream ← (stream.openBlockHere .blockSequenceStart).dropKey
    return { stream.pushHere .blockEntry 1 with keyAllowed := true }

/-- The question mark in front of a key. -/
def readKey (stream : TokenStream) : Except Fault TokenStream := do
  if !stream.inFlow && !stream.keyAllowed then stream.refuse .keyNotAllowed
  else
    let stream ← (stream.openBlockHere .blockMappingStart).dropKey
    return { stream.pushHere .key 1 with keyAllowed := !stream.inFlow }

/-- The colon in front of a value. It settles that a key has come before it. -/
def readValue (stream : TokenStream) : Except Fault TokenStream :=
  match stream.possibleKey with
  | some key =>
    let stream := (stream.insertAt key.number .key key.mark).openBlock .blockMappingStart key.mark
      key.number
    .ok { stream.pushHere .value 1 with possibleKey := none, keyAllowed := false }
  | none =>
    if !stream.inFlow && !stream.keyAllowed then stream.refuse .valueNotAllowed
    else
      let stream := stream.openBlockHere .blockMappingStart
      .ok { stream.pushHere .value 1 with keyAllowed := !stream.inFlow }

/-- A token that may be or start a key, but cannot stand in front of one. -/
def readNode (read : Cursor → Except Fault (Token × Cursor)) (stream : TokenStream) :
    Except Fault TokenStream := do
  let stream ← stream.saveKey
  let (token, cursor) ← read stream.cursor
  return { stream.push token stream.mark with cursor, keyAllowed := false }

def readBlockScalar (literal : Bool) (stream : TokenStream) : Except Fault TokenStream := do
  let stream ← stream.dropKey
  let (token, cursor) ← readBlock literal stream.blocks.head? stream.cursor
  return { stream.push token stream.mark with cursor, keyAllowed := true }

/-- A key may follow a plain scalar if it is on a line of its own. -/
def readPlainScalar (stream : TokenStream) : Except Fault TokenStream := do
  let stream ← stream.saveKey
  let (token, broken, cursor) ← readPlain stream.inFlow stream.innerColumn stream.cursor
  return { stream.push token stream.mark with cursor, keyAllowed := broken }

/-- Characters that mean something at the start of a token. -/
def indicators : List Char := [
  '-', '?', ':', ',', '[', ']', '\x7b', '\x7d', '#', '&', '*', '!', '|', '>', '\'', '"', '%', '@',
  '\x60']

/-- Whether a plain scalar may start with this character. -/
def startsPlain (inFlow : Bool) (c : Char) (rest : List Char) : Bool :=
  !(isBlank c || isBreak c || indicators.contains c)
    || (c = '-' && !rest.head?.any isBlank)
    || (!inFlow && (c = '?' || c = ':') && !blankOrEnd rest)

/-- Read the token that starts with `c`. -/
def readToken (c : Char) (rest : List Char) (stream : TokenStream) : Except Fault TokenStream :=
  let cursor := stream.cursor
  let indicates := stream.inFlow || blankOrEnd rest
  if cursor.mark.column = 0 && c = '%' then stream.readBetween readDirective
  else if cursor.atIndicator '-' then
    stream.readBetween fun cursor => .ok (.documentStart, cursor.skip 3)
  else if cursor.atIndicator '.' then
    stream.readBetween fun cursor => .ok (.documentEnd, cursor.skip 3)
  else if c = '[' then stream.readFlowStart .flowSequenceStart
  else if c = '\x7b' then stream.readFlowStart .flowMappingStart
  else if c = ']' then stream.readFlowEnd .flowSequenceEnd
  else if c = '\x7d' then stream.readFlowEnd .flowMappingEnd
  else if c = ',' then stream.readFlowEntry
  else if c = '-' && blankOrEnd rest then stream.readBlockEntry
  else if c = '?' && indicates then stream.readKey
  else if c = ':' && indicates then stream.readValue
  else if c = '*' then stream.readNode fun cursor => do
    let (name, cursor) ← readAnchorName .alias cursor
    return (.alias name, cursor)
  else if c = '&' then stream.readNode fun cursor => do
    let (name, cursor) ← readAnchorName .anchor cursor
    return (.anchor name, cursor)
  else if c = '!' then stream.readNode (readTag stream.inFlow)
  else if c = '|' && !stream.inFlow then stream.readBlockScalar true
  else if c = '>' && !stream.inFlow then stream.readBlockScalar false
  else if c = '\'' || c = '"' then stream.readNode (readQuoted c)
  else if startsPlain stream.inFlow c rest then stream.readPlainScalar
  else cursor.fail .badFirstCharacter .nextToken cursor.mark

/-- Read one more token, with those that it implies. -/
def readMore (stream : TokenStream) : Except Fault TokenStream := do
  let stream ← (stream.skipToToken stream.cursor.budget).dropStale
  let stream := stream.closeBlocks (· ≤ stream.mark.column)
  match stream.cursor.rest with
  | [] => stream.readEnd
  | c :: rest => stream.readToken c rest

/-- Whether the first waiting token may turn out to be a key. -/
def undecided (stream : TokenStream) : Bool :=
  (stream.possibleKey :: stream.outerKeys).any fun key => key.any (·.number = stream.taken)

/-- Read until the next token is certain. -/
def settle : Nat → TokenStream → Except Fault TokenStream
  | 0, stream => .ok stream
  | fuel + 1, stream =>
    match stream.waiting with
    | [] => do settle fuel (← stream.readMore)
    | _ => do
      let stream ← stream.dropStale
      if stream.undecided then settle fuel (← stream.readMore) else return stream

/-- The next token. Nothing follows the end of the stream but itself. -/
def peek (stream : TokenStream) : Except Fault (Placed × TokenStream) := do
  let stream ← stream.settle stream.cursor.budget
  match stream.waiting with
  | token :: _ => return (token, stream)
  | [] => return (⟨.streamEnd, stream.mark⟩, stream)

/-- Hand out the next token. -/
def drop (stream : TokenStream) : TokenStream :=
  { stream with waiting := stream.waiting.tail, taken := stream.taken + 1 }

end TokenStream

end ClientGen.Yaml
