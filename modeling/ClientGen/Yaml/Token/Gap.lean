import ClientGen.Yaml.Error

/-! # Blanks inside scalars

A gap between the words of a scalar that is not a block: blanks within a line are kept, one line
end becomes a blank, and of several line ends the first is dropped.
-/

namespace ClientGen.Yaml

/-- What stands between two words of a scalar. -/
structure Gap where
  /-- Blanks before the first line end. -/
  blanks : List Char := []
  /-- Whether a line has ended. -/
  broken : Bool := false
  firstBreak : List Char := []
  moreBreaks : List Char := []

namespace Gap

def isEmpty (gap : Gap) : Bool :=
  gap.blanks.isEmpty && !gap.broken

/-- The text that a gap stands for. -/
def text (gap : Gap) : List Char :=
  if !gap.broken then gap.blanks
  else if gap.firstBreak = ['\n'] then
    if gap.moreBreaks.isEmpty then [' '] else gap.moreBreaks
  else gap.firstBreak ++ gap.moreBreaks

/-- Read a gap on. Blanks that open a line are dropped; tabs among them may be refused before
    column `tabsFrom`. -/
def read (tabsFrom : Nat) (start : Mark) : Nat → Gap → Cursor → Except Fault (Gap × Cursor)
  | 0, gap, cursor => .ok (gap, cursor)
  | fuel + 1, gap, cursor =>
    match cursor.rest with
    | [] => .ok (gap, cursor)
    | c :: _ =>
      if isBlank c then
        if gap.broken then
          if c = '\t' && cursor.mark.column < tabsFrom then
            cursor.fail .tabInIndentation .plainScalar start
          else read tabsFrom start fuel gap cursor.next
        else read tabsFrom start fuel { gap with blanks := gap.blanks ++ [c] } cursor.next
      else if isBreak c then
        let (ended, cursor) := cursor.readBreak
        if gap.broken then
          read tabsFrom start fuel { gap with moreBreaks := gap.moreBreaks ++ ended } cursor
        else
          read tabsFrom start fuel { gap with blanks := [], broken := true, firstBreak := ended }
            cursor
      else .ok (gap, cursor)

end Gap

end ClientGen.Yaml
