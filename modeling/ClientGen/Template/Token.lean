import ClientGen.Decimal.Reading
import ClientGen.Template.Error
import ClientGen.Text.Blank

/-! # Template tokens

A template is text with three kinds of insertions: values in doubled braces, statements
between brace and percent sign, and comments between brace and hash. A minus sign inside a
delimiter removes the blanks next to it, a plus sign keeps them. Without either, a line
that holds a statement only leaves nothing behind: the blanks before it and the line end
after it are dropped.
-/

namespace ClientGen.Template

/-- A token of a template. -/
inductive Token where
  /-- Text that is copied. -/
  | text (s : String)
  | valueStart | valueEnd | statementStart | statementEnd
  | ident (name : String)
  | str (s : String)
  | int (n : Nat)
  | float (x : Float)
  /-- A punctuation mark or an operator. -/
  | mark (s : String)
  /-- The template cannot be read on from here. -/
  | fault (error : Error)

namespace Token

/-- The token as messages name it. -/
def shown : Token → String
  | .text _ => "template-data"
  | .valueStart => "start of variable block"
  | .valueEnd => "end of variable block"
  | .statementStart => "start of block"
  | .statementEnd => "end of block"
  | .ident _ => "identifier"
  | .str _ => "string"
  | .int _ => "integer"
  | .float _ => "float"
  | .mark s => "`" ++ s ++ "`"
  | .fault _ => "end of input"

end Token

/-- A token and the line it starts on. -/
structure Placed where
  token : Token
  line : Nat

namespace Lexer

/-- What is being read. -/
inductive Mode where
  | text | value | statement
  deriving Repr, DecidableEq

/-- What a delimiter says about the blanks next to it. -/
inductive Blanks where
  | default | keep | remove
  deriving Repr, DecidableEq

/-- What is unread, what was read (nearest first), and how the reading goes on. -/
structure State where
  rest : List Char
  before : List Char
  line : Nat
  mode : Mode
  /-- Brackets that are open inside a value or a statement. -/
  openBrackets : Int
  /-- Whether leading blanks of the text are dropped. -/
  skipBlanks : Bool

def State.start (source : List Char) : State :=
  ⟨source, [], 1, .text, 0, false⟩

/-- Read the next `count` characters. -/
def State.advance (state : State) : Nat → State
  | 0 => state
  | count + 1 =>
    match state.rest with
    | [] => state
    | c :: rest =>
      State.advance
        { state with
          rest, before := c :: state.before,
          line := if c = '\n' then state.line + 1 else state.line }
        count

def isLineEnd (c : Char) : Bool :=
  c = '\n' || c = '\r'

/-- Blanks that stay on one line. -/
def isInlineBlank (c : Char) : Bool :=
  Text.isBlank c && !isLineEnd c

def isAsciiBlank (c : Char) : Bool :=
  c = ' ' || c = '\t' || c = '\n' || c = '\x0c' || c = '\r'

/-- Whether only blanks stand between the last line end and here. -/
def atLineStart (before : List Char) : Bool :=
  match before.dropWhile isInlineBlank with
  | [] => true
  | c :: _ => isLineEnd c

def blanksOf : List Char → Blanks
  | '-' :: _ => .remove
  | '+' :: _ => .keep
  | _ => .default

def Blanks.width : Blanks → Nat
  | .default => 0
  | _ => 1

/-- What an opening delimiter starts. -/
inductive Opening where
  | value | statement | comment
  deriving Repr, DecidableEq

/-- Characters before the next opening delimiter, and the delimiter. -/
def findOpening : List Char → List Char × Option Opening
  | '\x7b' :: '\x7b' :: _ => ([], some .value)
  | '\x7b' :: '%' :: _ => ([], some .statement)
  | '\x7b' :: '#' :: _ => ([], some .comment)
  | [] => ([], none)
  | c :: rest =>
    let (lead, opening) := findOpening rest
    (c :: lead, opening)

/-- Characters before the first `a` that a `b` follows, if there is one. -/
def findPair (a b : Char) : List Char → Option (List Char)
  | [] => none
  | [_] => none
  | x :: y :: rest =>
    if x = a && y = b then some [] else (findPair a b (y :: rest)).map (x :: ·)

/-- Without the characters `p` at the end. -/
def stripEnd (p : Char → Bool) (cs : List Char) : List Char :=
  Text.dropEndWhile p cs

/-- Drop one line end. -/
def dropLineEnd (cs : List Char) : List Char :=
  let cs := match cs with
    | '\r' :: rest => rest
    | cs => cs
  match cs with
  | '\n' :: rest => rest
  | cs => cs

/-- Go on behind a statement or a comment. -/
def State.afterTag (state : State) (blanks : Blanks) : State :=
  match blanks with
  | .keep => state
  | .default => state.advance (state.rest.length - (dropLineEnd state.rest).length)
  | .remove => { state with skipBlanks := true }

/-- The length of a statement made of one word, up to and with its closing delimiter, and
    what that says about blanks. -/
def wordTag? (word : String) (marked : Bool) (cs : List Char) : Option (Nat × Blanks) :=
  let inner := if marked && blanksOf cs != .default then cs.drop 1 else cs
  let inner := inner.dropWhile isAsciiBlank
  if word.toList.isPrefixOf inner then
    let tail := (inner.drop word.length).dropWhile isAsciiBlank
    let blanks := blanksOf tail
    match tail.drop blanks.width with
    | '%' :: '\x7d' :: rest => some (cs.length - rest.length, blanks)
    | _ => none
  else none

/-- Text up to the end of a raw section: its length, what the delimiter that ends it says
    about the blanks on each side, and the length of that delimiter. -/
def findRawEnd (skipped : Nat) : List Char → Option (Nat × Blanks × Nat × Blanks)
  | '\x7b' :: '%' :: rest =>
    match wordTag? "endraw" true rest with
    | some (width, after) => some (skipped, blanksOf rest, width + 2, after)
    | none => findRawEnd (skipped + 1) ('%' :: rest)
  | _ :: rest => findRawEnd (skipped + 1) rest
  | [] => none

/-- The text of a raw section as it is copied. -/
def rawText (content : List Char) (first last : Blanks) : List Char :=
  let content := match first with
    | .default => dropLineEnd content
    | .remove => content.dropWhile Text.isBlank
    | .keep => content
  match last with
  | .default =>
    let stripped := stripEnd isInlineBlank content
    if atLineStart content.reverse then stripped else content
  | .remove => stripEnd Text.isBlank content
  | .keep => content

/-- A step of the lexer: tokens, and the state after them unless the template ends here. -/
abbrev Step := List Placed × Option State

def failed (state : State) (error : Error) : Step :=
  ([⟨.fault error, state.line⟩], none)

/-- A raw section, behind its opening tag. -/
def rawStep (state : State) (first : Blanks) : Step :=
  match findRawEnd 0 state.rest with
  | none => failed state (.badForm "unexpected end of raw block")
  | some (length, last, width, after) =>
    let content := rawText (state.rest.take length) first last
    let token := ⟨.text (String.ofList content), state.line⟩
    ([token], some ((state.advance (length + width)).afterTag after))

/-- What an opening delimiter starts, at the delimiter. -/
def openingStep (state : State) (opening : Opening) : Step :=
  let mark := blanksOf (state.rest.drop 2)
  let width := 2 + mark.width
  let inside := state.rest.drop width
  match opening with
  | .comment =>
    match findPair '#' '\x7d' inside with
    | none => failed state (.badForm "unexpected end of comment")
    | some content =>
      let after := blanksOf (content.drop (content.length - 1))
      ([], some ((state.advance (width + content.length + 2)).afterTag after))
  | .value =>
    ([⟨.valueStart, state.line⟩], some { state.advance width with mode := .value })
  | .statement =>
    match wordTag? "raw" false inside with
    | some (length, first) => rawStep (state.advance (width + length)) first
    | none =>
      ([⟨.statementStart, state.line⟩], some { state.advance width with mode := .statement })

/-- Copied text up to the next opening delimiter, and that delimiter. -/
def textStep (state : State) : Step :=
  let state := if state.skipBlanks then
      { state.advance (state.rest.takeWhile Text.isBlank).length with skipBlanks := false }
    else state
  let (lead, opening) := findOpening state.rest
  let after := state.advance lead.length
  match opening with
  | none => (if lead.isEmpty then [] else [⟨.text (String.ofList lead), state.line⟩], none)
  | some opening =>
    let copied := match blanksOf (after.rest.drop 2) with
      | .default =>
        if opening != .value && atLineStart after.before then stripEnd isInlineBlank lead
        else lead
      | .keep => lead
      | .remove => stripEnd Text.isBlank lead
    let (tokens, next) := openingStep after opening
    (if copied.isEmpty then tokens else ⟨.text (String.ofList copied), state.line⟩ :: tokens, next)

def hexDigit? (c : Char) : Option Nat :=
  if c.isDigit then some (c.toNat - '0'.toNat)
  else if 'a' ≤ c && c ≤ 'f' then some (c.toNat - 'a'.toNat + 10)
  else if 'A' ≤ c && c ≤ 'F' then some (c.toNat - 'A'.toNat + 10)
  else none

/-- Value of hexadecimal digits. -/
def hexValue? (cs : List Char) : Option Nat :=
  cs.foldlM (fun n c => (hexDigit? c).map (16 * n + ·)) 0

/-- The text that a string literal stands for. `high` is the first half of a surrogate pair
    whose second half has to follow. -/
def unescape : Option Nat → List Char → Option (List Char)
  | none, [] => some []
  | none, '\\' :: 'u' :: a :: b :: c :: d :: rest => do
    let n ← hexValue? [a, b, c, d]
    if 0xD800 ≤ n && n ≤ 0xDBFF then unescape (some n) rest
    else if 0xDC00 ≤ n && n ≤ 0xDFFF then none
    else return Char.ofNat n :: (← unescape none rest)
  | some high, '\\' :: 'u' :: a :: b :: c :: d :: rest => do
    let n ← hexValue? [a, b, c, d]
    if 0xDC00 ≤ n && n ≤ 0xDFFF then
      return Char.ofNat ((high - 0xD800) * 0x400 + (n - 0xDC00) + 0x10000)
        :: (← unescape none rest)
    else none
  | some _, _ => none
  | none, '\\' :: 'x' :: a :: b :: rest => do
    return Char.ofNat (← hexValue? [a, b]) :: (← unescape none rest)
  | none, '\\' :: c :: rest => do
    let image ← match c with
      | '"' | '\\' | '/' | '\'' => some c
      | 'b' => some '\x08'
      | 'f' => some '\x0c'
      | 'n' => some '\n'
      | 'r' => some '\r'
      | 't' => some '\t'
      | _ => none
    return image :: (← unescape none rest)
  | none, ['\\'] => none
  | none, c :: rest => do return c :: (← unescape none rest)

/-- Characters of a string literal up to its closing quote; a character behind a backslash
    does not close it. -/
def literalBody (quote : Char) : List Char → Option (List Char)
  | [] => none
  | '\\' :: c :: rest => (literalBody quote rest).map fun body => '\\' :: c :: body
  | c :: rest => if c = quote then some [] else (literalBody quote rest).map (c :: ·)

/-- A string literal. -/
def stringStep (state : State) (quote : Char) : Step :=
  match literalBody quote (state.rest.drop 1) with
  | none => failed state (.badForm "unexpected end of string")
  | some body =>
    match unescape none body with
    | none => failed state { kind := .badEscape }
    | some cs =>
      ([⟨.str (String.ofList cs), state.line⟩], some (state.advance (body.length + 2)))

/-- Parts of a decimal number. -/
inductive NumberPart where
  | whole | fraction | exponent | exponentDigits
  deriving Repr, DecidableEq

/-- The characters of a decimal number, and the part that they end in. -/
def numberChars : NumberPart → List Char → List Char × NumberPart
  | part, [] => ([], part)
  | part, c :: rest =>
    let next : Option NumberPart :=
      if c = '.' && part = .whole then some .fraction
      else if (c = 'e' || c = 'E') && (part = .whole || part = .fraction) then some .exponent
      else if (c = '+' || c = '-') && part = .exponent then some .exponentDigits
      else if c.isDigit then some (if part = .exponent then .exponentDigits else part)
      else if c = '_' then some part
      else none
    match next with
    | some next =>
      let (cs, last) := numberChars next rest
      (c :: cs, last)
    | none => ([], part)

/-- Largest whole number that can be written. -/
def maxLiteral : Nat := 0xFFFFFFFFFFFFFFFFFFFFFFFFFFFFFFFF

/-- A whole number in a base other than ten, behind its two-character mark. -/
def basedStep (state : State) (base : Nat) : Step :=
  let digits := (state.rest.drop 2).takeWhile fun c =>
    c = '_' || (hexDigit? c).any (· < base)
  let value := (digits.filter (· != '_')).foldl (fun n c => base * n + (hexDigit? c).getD 0) 0
  if digits.isEmpty || maxLiteral < value then
    failed state (.badForm "invalid integer (too large)")
  else ([⟨.int value, state.line⟩], some (state.advance (digits.length + 2)))

/-- A number. Underscores may stand between its digits, but not at its end. -/
def numberStep (state : State) : Step :=
  match state.rest with
  | '0' :: 'x' :: _ | '0' :: 'X' :: _ => basedStep state 16
  | '0' :: 'o' :: _ | '0' :: 'O' :: _ => basedStep state 8
  | '0' :: 'b' :: _ | '0' :: 'B' :: _ => basedStep state 2
  | cs =>
    let (chars, part) := numberChars .whole cs
    let digits := chars.filter (· != '_')
    let after := state.advance chars.length
    if chars.getLast? = some '_' then
      failed state (.badForm "'_' may not occur at end of number")
    else if part = .whole then
      let value := Decimal.digitsValue digits
      if maxLiteral < value then failed state (.badForm "invalid integer (too large)")
      else ([⟨.int value, state.line⟩], some after)
    else
      match Decimal.readUnsigned digits with
      | some x => ([⟨.float x, state.line⟩], some after)
      | none => failed state (.badForm "invalid float")

def isIdentStart (c : Char) : Bool :=
  c.isAlpha || c = '_'

def isIdentChar (c : Char) : Bool :=
  c.isAlphanum || c = '_'

/-- Marks of two characters. -/
def longMarks : List String := ["//", "**", "==", "!=", ">=", "<="]

/-- Marks of one character. -/
def shortMarks : List Char :=
  ['+', '-', '*', '/', '%', '!', '.', ',', ':', '~', '|', '=', '>', '<', '(', ')', '[', ']',
   '\x7b', '\x7d']

/-- How a mark changes the number of open brackets. -/
def nesting (c : Char) : Int :=
  if c = '(' || c = '[' || c = '\x7b' then 1
  else if c = ')' || c = ']' || c = '\x7d' then -1
  else 0

/-- An operator, a punctuation mark, a literal or a name. -/
def wordStep (state : State) : Step :=
  match state.rest with
  | [] => ([], none)
  | c :: rest =>
    let two := String.ofList (c :: rest.take 1)
    if longMarks.contains two then ([⟨.mark two, state.line⟩], some (state.advance 2))
    else if shortMarks.contains c then
      ([⟨.mark c.toString, state.line⟩],
        some { state.advance 1 with openBrackets := state.openBrackets + nesting c })
    else if c = '\'' || c = '"' then stringStep state c
    else if c.isDigit then numberStep state
    else if isIdentStart c then
      let name := state.rest.takeWhile isIdentChar
      ([⟨.ident (String.ofList name), state.line⟩], some (state.advance name.length))
    else failed state (.badForm "unexpected character")

/-- A token inside a value or a statement. A closing delimiter counts only where no bracket
    is open. -/
def insideStep (state : State) (first second : Char) (closing : Token) : Step :=
  let state := state.advance (state.rest.takeWhile isAsciiBlank).length
  let blanks := blanksOf state.rest
  let closes := state.openBrackets = 0 &&
    (state.rest.drop blanks.width).take 2 = [first, second]
  if closes then
    let after := { state.advance (blanks.width + 2) with mode := .text }
    let after := if closing matches .statementEnd then after.afterTag blanks
      else { after with skipBlanks := blanks = .remove }
    ([⟨closing, state.line⟩], some after)
  else wordStep state

def step (state : State) : Step :=
  match state.mode with
  | .text => textStep state
  | .value => insideStep state '\x7d' '\x7d' .valueEnd
  | .statement => insideStep state '%' '\x7d' .statementEnd

/-- Tokens of a template, in at most `fuel` steps. -/
def run : Nat → State → List Placed
  | 0, _ => []
  | fuel + 1, state =>
    if state.rest.isEmpty then []
    else
      let (tokens, next) := step state
      match next with
      | some state => tokens ++ run fuel state
      | none => tokens

end Lexer

/-- The tokens of a template. Every step reads a character, so there are no more steps than
    characters. -/
def Token.scan (source : String) : List Placed :=
  Lexer.run (source.length + 1) (.start source.toList)

end ClientGen.Template
