import ClientGen.Yaml.Token
import ClientGen.Yaml.Token.Gap

/-! # Reading plain scalars -/

namespace ClientGen.Yaml

/-- Characters that delimit the entries of a flow collection. -/
def flowMarks : List Char := [',', '[', ']', '\x7b', '\x7d']

/-- A word of a plain scalar: up to a blank, a colon before a blank, or a delimiter. -/
def readPlainWord (inFlow : Bool) (start : Mark) : Nat → Cursor →
    Except Fault (List Char × Cursor)
  | 0, cursor => .ok ([], cursor)
  | fuel + 1, cursor =>
    match cursor.rest with
    | [] => .ok ([], cursor)
    | c :: rest =>
      if isBlank c || isBreak c then .ok ([], cursor)
      else if inFlow && c = ':' && rest.head?.any ('?' :: flowMarks).contains then
        cursor.fail .unexpectedColon .plainScalar start
      else if (c = ':' && blankOrEnd rest) || (inFlow && flowMarks.contains c) then
        .ok ([], cursor)
      else do
        let (chars, cursor) ← readPlainWord inFlow start fuel cursor.next
        return (c :: chars, cursor)

/-- The words of a plain scalar whose lines are indented by at least `indent`, behind the gap
    before them. Tells whether a line has ended behind the last word. -/
def readPlainText (inFlow : Bool) (indent : Nat) (start : Mark) : Nat → Gap → Cursor →
    Except Fault (List Char × Bool × Cursor)
  | 0, gap, cursor => .ok ([], gap.broken, cursor)
  | fuel + 1, gap, cursor =>
    if cursor.atDocumentIndicator || cursor.rest.head? = some '#' then
      .ok ([], gap.broken, cursor)
    else do
      let (word, cursor) ← readPlainWord inFlow start cursor.budget cursor
      if word.isEmpty then return ([], gap.broken, cursor)
      else if !cursor.rest.head?.any fun c => isBlank c || isBreak c then
        return (gap.text ++ word, false, cursor)
      else
        let (next, cursor) ← Gap.read indent start cursor.budget {} cursor
        if !inFlow && cursor.mark.column < indent then
          return (gap.text ++ word, next.broken, cursor)
        else
          let (more, broken, cursor) ← readPlainText inFlow indent start fuel next cursor
          return (gap.text ++ word ++ more, broken, cursor)

/-- A plain scalar, and whether a line has ended behind it. -/
def readPlain (inFlow : Bool) (indent : Nat) (cursor : Cursor) :
    Except Fault (Token × Bool × Cursor) := do
  let (text, broken, after) ← readPlainText inFlow indent cursor.mark cursor.budget {} cursor
  return (.scalar text true, broken, after)

end ClientGen.Yaml
