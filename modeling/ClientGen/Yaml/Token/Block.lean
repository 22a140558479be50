import ClientGen.Yaml.Error
import ClientGen.Yaml.Token

/-! # Reading block scalars -/

namespace ClientGen.Yaml

/-- What becomes of the line ends behind the last line of a block scalar. -/
inductive Chomping where
  | strip | clip | keep
  deriving Repr, DecidableEq

/-- The header of a block scalar. -/
structure BlockHeader where
  chomping : Chomping := .clip
  /-- Columns that the lines stand further right than what holds them, if given. -/
  step : Option Nat := none

def readChomping (cursor : Cursor) : Option Chomping × Cursor :=
  match cursor.rest with
  | '+' :: _ => (some .keep, cursor.next)
  | '-' :: _ => (some .strip, cursor.next)
  | _ => (none, cursor)

def readStep (start : Mark) (cursor : Cursor) : Except Fault (Option Nat × Cursor) :=
  match cursor.rest with
  | c :: _ =>
    if c = '0' then cursor.fail .zeroIndentation .blockScalar start
    else if c.isDigit then .ok (some (c.toNat - '0'.toNat), cursor.next)
    else .ok (none, cursor)
  | [] => .ok (none, cursor)

/-- The two parts of a header, in any order. -/
def readBlockHeader (start : Mark) (cursor : Cursor) :
    Except Fault (BlockHeader × Cursor) := do
  match readChomping cursor with
  | (some chomping, cursor) =>
    let (step, cursor) ← readStep start cursor
    return ({ chomping, step }, cursor)
  | (none, cursor) =>
    let (step, cursor) ← readStep start cursor
    match step, readChomping cursor with
    | some step, (some chomping, cursor) => return ({ chomping, step := some step }, cursor)
    | step, _ => return ({ step }, cursor)

/-- Read blank lines and the indentation of the next line. The lines may stand anywhere as long
    as their column `indent` is not known, and the column that was reached is given back. -/
def readIndentation (indent : Option Nat) (start : Mark) : Nat → Nat → List Char → Cursor →
    Except Fault (Nat × List Char × Cursor)
  | 0, reached, breaks, cursor => .ok (reached, breaks, cursor)
  | fuel + 1, reached, breaks, cursor =>
    let spaces := (cursor.rest.takeWhile (· = ' ')).length
    let cursor := cursor.skip <| match indent with
      | none => spaces
      | some indent => min spaces (indent - cursor.mark.column)
    let reached := max reached cursor.mark.column
    let unsettled := indent.all (cursor.mark.column < ·)
    match cursor.rest with
    | [] => .ok (reached, breaks, cursor)
    | c :: _ =>
      if unsettled && c = '\t' then cursor.fail .tabAsIndentation .blockScalar start
      else if isBreak c then
        let (ended, cursor) := cursor.readBreak
        readIndentation indent start fuel reached (breaks ++ ended) cursor
      else .ok (reached, breaks, cursor)

/-- The lines of a block scalar in column `indent`, behind the end of the line before them and the
    blank lines in between. Gives back what follows the last line. -/
def readBlockLines (literal : Bool) (indent : Nat) (start : Mark) : Nat → Bool → List Char →
    List Char → Cursor → Except Fault (List Char × List Char × List Char × Cursor)
  | 0, _, ended, blankLines, cursor => .ok ([], ended, blankLines, cursor)
  | fuel + 1, blankBefore, ended, blankLines, cursor =>
    if cursor.mark.column != indent || cursor.rest.isEmpty then
      .ok ([], ended, blankLines, cursor)
    else do
      let blankNow := cursor.rest.head?.any isBlank
      let folded := !literal && ended.head? = some '\n' && !blankBefore && !blankNow
      let joint := if folded then if blankLines.isEmpty then [' '] else [] else ended
      let (line, cursor) := cursor.span (!isBreak ·)
      let (ended', cursor) := cursor.readBreak
      let (_, blankLines', cursor) ← readIndentation (some indent) start cursor.budget 0 [] cursor
      let (more, tail) ← readBlockLines literal indent start fuel blankNow ended' blankLines' cursor
      return (joint ++ blankLines ++ line ++ more, tail)

/-- A block scalar inside a block in column `outer`, or outside of all blocks. -/
def readBlock (literal : Bool) (outer : Option Nat) (cursor : Cursor) :
    Except Fault (Token × Cursor) := do
  let start := cursor.mark
  let (header, cursor) ← readBlockHeader start cursor.next
  let cursor := cursor.skipBlanks.skipComment
  if !breakOrEnd cursor.rest then cursor.fail .commentOrBreakExpected .blockScalar start
  else
    let given := header.step.map (outer.getD 0 + ·)
    let cursor := cursor.skipBreak
    let (reached, blankLines, cursor) ← readIndentation given start cursor.budget 0 [] cursor
    let least := max 1 ((outer.map (· + 1)).getD 0)
    let indent := given.getD (max reached least)
    let (text, ended, blankLines, cursor) ←
      readBlockLines literal indent start cursor.budget false [] blankLines cursor
    let ending := match header.chomping with
      | .strip => []
      | .clip => ended
      | .keep => ended ++ blankLines
    return (.scalar (text ++ ending) false, cursor)

end ClientGen.Yaml
