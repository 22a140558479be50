import ClientGen.Yaml.Token.Directive
import ClientGen.Yaml.Token.Gap

/-! # Reading quoted scalars -/

namespace ClientGen.Yaml

/-- Escapes of one character. -/
def simpleEscapes : List (Char × Char) := [
  ('0', '\x00'), ('a', '\x07'), ('b', '\x08'), ('t', '\t'), ('\t', '\t'), ('n', '\n'),
  ('v', '\x0b'), ('f', '\x0c'), ('r', '\r'), ('e', '\x1b'), (' ', ' '), ('"', '"'), ('/', '/'),
  ('\\', '\\'), ('N', '\x85'), ('_', '\xa0'), ('L', '\u2028'), ('P', '\u2029')]

/-- Escapes by number, with the count of their digits. -/
def codeEscapes : List (Char × Nat) := [('x', 2), ('u', 4), ('U', 8)]

/-- The character with a number of so many hexadecimal digits. -/
def readCode (digits : Nat) (start : Mark) (cursor : Cursor) :
    Except Fault (Char × Cursor) :=
  match (cursor.rest.take digits).mapM hexDigit? with
  | some values =>
    if values.length < digits then cursor.fail .badHexNumber .quotedEscape start
    else
      let code := values.foldl (fun n d => 16 * n + d) 0
      if (0xD800 ≤ code && code ≤ 0xDFFF) || 0x10FFFF < code then
        cursor.fail .badCodePoint .quotedEscape start
      else .ok (Char.ofNat code, cursor.skip digits)
  | none => cursor.fail .badHexNumber .quotedEscape start

/-- The character that an escape stands for, from its backslash on. -/
def readEscape (start : Mark) (cursor : Cursor) : Except Fault (Char × Cursor) :=
  match cursor.rest with
  | _ :: c :: _ =>
    match simpleEscapes.lookup c, codeEscapes.lookup c with
    | some meant, _ => .ok (meant, cursor.skip 2)
    | none, some digits => readCode digits start (cursor.skip 2)
    | none, none => cursor.fail .unknownEscape .quotedEscape start
  | _ => cursor.fail .unknownEscape .quotedEscape start

/-- A word of a quoted scalar: up to a blank, a line end or the closing quote. Tells whether it
    stopped at an escaped line end, which is read too. -/
def readQuotedWord (quote : Char) (start : Mark) : Nat → Cursor →
    Except Fault (List Char × Bool × Cursor)
  | 0, cursor => .ok ([], false, cursor)
  | fuel + 1, cursor =>
    match cursor.rest with
    | [] => .ok ([], false, cursor)
    | c :: rest =>
      if isBlank c || isBreak c then .ok ([], false, cursor)
      else if c = quote then
        if quote = '\'' && rest.head? = some '\'' then do
          let (chars, escaped, cursor) ← readQuotedWord quote start fuel (cursor.skip 2)
          return (c :: chars, escaped, cursor)
        else .ok ([], false, cursor)
      else if quote = '"' && c = '\\' then
        if rest.head?.any isBreak then .ok ([], true, cursor.next.skipBreak)
        else do
          let (meant, cursor) ← readEscape start cursor
          let (chars, escaped, cursor) ← readQuotedWord quote start fuel cursor
          return (meant :: chars, escaped, cursor)
      else do
        let (chars, escaped, cursor) ← readQuotedWord quote start fuel cursor.next
        return (c :: chars, escaped, cursor)

/-- The text of a quoted scalar behind its opening quote, with the closing one. -/
def readQuotedText (quote : Char) (start : Mark) : Nat → Cursor →
    Except Fault (List Char × Cursor)
  | 0, cursor => cursor.fail .unexpectedEnd .quotedScalar start
  | fuel + 1, cursor =>
    if cursor.atDocumentIndicator then cursor.fail .unexpectedIndicator .quotedScalar start
    else if cursor.rest.isEmpty then cursor.fail .unexpectedEnd .quotedScalar start
    else do
      let (word, escaped, cursor) ← readQuotedWord quote start cursor.budget cursor
      if cursor.rest.head? = some quote then return (word, cursor.next)
      else
        let (gap, cursor) ← Gap.read 0 start cursor.budget { broken := escaped } cursor
        let (more, cursor) ← readQuotedText quote start fuel cursor
        return (word ++ gap.text ++ more, cursor)

/-- A quoted scalar. -/
def readQuoted (quote : Char) (cursor : Cursor) : Except Fault (Token × Cursor) := do
  let (text, after) ← readQuotedText quote cursor.mark cursor.budget cursor.next
  return (.scalar text false, after)

end ClientGen.Yaml
