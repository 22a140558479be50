import ClientGen.Yaml.Cursor

/-! # What can be wrong with a YAML text -/

namespace ClientGen.Yaml

/-- A violation of the rules of the format. -/
inductive Problem where
  -- Characters and scalars
  | badFirstCharacter | unknownEscape | badHexNumber | badCodePoint | unexpectedEnd
  | unexpectedIndicator | unexpectedColon | tabAsIndentation | tabInIndentation
  | zeroIndentation | commentOrBreakExpected
  -- Keys and entries
  | colonMissing | entryNotAllowed | keyNotAllowed | valueNotAllowed
  -- Anchors and tags
  | wordCharacterExpected | exclamationExpected | closingAngleExpected | blankExpected
  | blankOrBreakExpected | tagUriExpected | escapedOctetExpected | badLeadingOctet
  | badTrailingOctet | undefinedHandle
  -- Directives
  | directiveNameExpected | nonWordCharacter | longVersion | versionExpected | digitOrDotExpected
  | unknownDirective | duplicateVersion | incompatibleVersion | duplicateHandle
  -- Structure
  | documentStartExpected | contentExpected | dashExpected | keyExpected
  | commaOrBracketExpected | commaOrBraceExpected
  deriving Repr, DecidableEq

def Problem.message : Problem → String
  | .badFirstCharacter => "found character that cannot start any token"
  | .unknownEscape => "found unknown escape character"
  | .badHexNumber => "did not find expected hexdecimal number"
  | .badCodePoint => "found invalid Unicode character escape code"
  | .unexpectedEnd => "found unexpected end of stream"
  | .unexpectedIndicator => "found unexpected document indicator"
  | .unexpectedColon => "found unexpected ':'"
  | .tabAsIndentation => "found a tab character where an indentation space is expected"
  | .tabInIndentation => "found a tab character that violates indentation"
  | .zeroIndentation => "found an indentation indicator equal to 0"
  | .commentOrBreakExpected => "did not find expected comment or line break"
  | .colonMissing => "could not find expected ':'"
  | .entryNotAllowed => "block sequence entries are not allowed in this context"
  | .keyNotAllowed => "mapping keys are not allowed in this context"
  | .valueNotAllowed => "mapping values are not allowed in this context"
  | .wordCharacterExpected => "did not find expected alphabetic or numeric character"
  | .exclamationExpected => "did not find expected '!'"
  | .closingAngleExpected => "did not find the expected '>'"
  | .blankExpected => "did not find expected whitespace"
  | .blankOrBreakExpected => "did not find expected whitespace or line break"
  | .tagUriExpected => "did not find expected tag URI"
  | .escapedOctetExpected => "did not find URI escaped octet"
  | .badLeadingOctet => "found an incorrect leading UTF-8 octet"
  | .badTrailingOctet => "found an incorrect trailing UTF-8 octet"
  | .undefinedHandle => "found undefined tag handle"
  | .directiveNameExpected => "could not find expected directive name"
  | .nonWordCharacter => "found unexpected non-alphabetical character"
  | .longVersion => "found extremely long version number"
  | .versionExpected => "did not find expected version number"
  | .digitOrDotExpected => "did not find expected digit or '.' character"
  | .unknownDirective => "found unknown directive name"
  | .duplicateVersion => "found duplicate %YAML directive"
  | .incompatibleVersion => "found incompatible YAML document"
  | .duplicateHandle => "found duplicate %TAG directive"
  | .documentStartExpected => "did not find expected <document start>"
  | .contentExpected => "did not find expected node content"
  | .dashExpected => "did not find expected '-' indicator"
  | .keyExpected => "did not find expected key"
  | .commaOrBracketExpected => "did not find expected ',' or ']'"
  | .commaOrBraceExpected => "did not find expected ',' or '\x7d'"

/-- What was being read when a problem showed. -/
inductive Activity where
  | nextToken | simpleKey | directive | versionDirective | tagDirective | tagDirectiveHandle
  | tagDirectiveBang | tagDirectivePrefix | anchor | alias | tag | tagUri | blockScalar
  | quotedScalar | quotedEscape | plainScalar | node | blockNode | flowNode | blockCollection
  | blockMapping | flowSequence | flowMapping
  deriving Repr, DecidableEq

def Activity.message : Activity → String
  | .nextToken => "while scanning for the next token"
  | .simpleKey => "while scanning a simple key"
  | .directive => "while scanning a directive"
  | .versionDirective => "while scanning a %YAML directive"
  | .tagDirective => "while scanning a %TAG directive"
  | .tagDirectiveHandle => "while scanning a tag directive"
  | .tagDirectiveBang => "while parsing a tag directive"
  | .tagDirectivePrefix => "while parsing a %TAG directive"
  | .anchor => "while scanning an anchor"
  | .alias => "while scanning an alias"
  | .tag => "while scanning a tag"
  | .tagUri => "while parsing a tag"
  | .blockScalar => "while scanning a block scalar"
  | .quotedScalar => "while scanning a quoted scalar"
  | .quotedEscape => "while parsing a quoted scalar"
  | .plainScalar => "while scanning a plain scalar"
  | .node => "while parsing a node"
  | .blockNode => "while parsing a block node"
  | .flowNode => "while parsing a flow node"
  | .blockCollection => "while parsing a block collection"
  | .blockMapping => "while parsing a block mapping"
  | .flowSequence => "while parsing a flow sequence"
  | .flowMapping => "while parsing a flow mapping"

/-- A problem, where it shows, and what was being read since where. -/
structure Fault where
  problem : Problem
  mark : Mark
  during : Option (Activity × Mark) := none
  deriving Repr, DecidableEq

/-- The place of the activity is left out where it says nothing new. -/
def Fault.message (fault : Fault) : String :=
  fault.problem.message ++ fault.mark.suffix ++
    match fault.during with
    | none => ""
    | some (activity, start) =>
      ", " ++ activity.message ++ if start.sameLineColumn fault.mark then "" else start.suffix

/-- Report a problem at the next character. -/
def Cursor.fail (cursor : Cursor) (problem : Problem) (activity : Activity) (start : Mark) :
    Except Fault α :=
  .error ⟨problem, cursor.mark, some (activity, start)⟩

/-- Why a text has no value. -/
inductive ReadError where
  | malformed (fault : Fault)
  /-- A character that no text may hold, behind `offset` bytes. -/
  | controlCharacter (offset : Nat)
  | unknownAnchor (mark : Mark)
  | tooDeep (mark : Mark)
  /-- Aliases are followed too often. -/
  | tooManyAliases
  | severalDocuments
  | endOfText
  /-- A node that has no counterpart among the values. -/
  | unwanted (message : String) (path : String) (mark : Mark)
  deriving Repr, DecidableEq

namespace ReadError

/-- The place of the fault, if it has one. -/
def mark? : ReadError → Option Mark
  | .malformed fault => some fault.mark
  | .controlCharacter _ => some {}
  | .unknownAnchor mark | .tooDeep mark | .unwanted _ _ mark => some mark
  | .tooManyAliases | .severalDocuments | .endOfText => none

def message : ReadError → String
  | .malformed fault => fault.message
  | .controlCharacter offset =>
    "control characters are not allowed"
      ++ if offset = 0 then "" else " at position " ++ toString offset
  | .unknownAnchor mark => "unknown anchor" ++ mark.suffix
  | .tooDeep mark => "recursion limit exceeded" ++ mark.suffix
  | .tooManyAliases => "repetition limit exceeded"
  | .severalDocuments =>
    "deserializing from YAML containing more than one document is not supported"
  | .endOfText => "EOF while parsing a value"
  | .unwanted message path mark =>
    (if path = "" then message else path ++ ": " ++ message) ++ mark.suffix

end ReadError

end ClientGen.Yaml
