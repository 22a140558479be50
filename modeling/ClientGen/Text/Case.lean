import ClientGen.Text.CaseTable

/-! # Letter case

Case conversion over all of Unicode. A character's converted form may be several
characters, and a lower-case sigma takes its final form at the end of a word.
-/

namespace ClientGen.Text

/-- Apply the first range that maps the character; unmapped characters stay. -/
def shiftBy (ranges : List CaseRange) (c : Char) : Char :=
  match ranges.find? (·.covers c.toNat) with
  | some range => Char.ofNat (c.toNat + range.shift).toNat
  | none => c

/-- The converted form of one character: its expansion if it has one, else its single image. -/
def convertChar (expansions : List (Nat × List Nat)) (ranges : List CaseRange) (c : Char) :
    List Char :=
  match expansions.lookup c.toNat with
  | some codes => codes.map Char.ofNat
  | none => [shiftBy ranges c]

/-- Lower-case form of one character on its own. -/
def lowerChar (c : Char) : List Char :=
  convertChar lowerExpansions lowerRanges c

/-- Upper-case form of one character. -/
def upperChar (c : Char) : List Char :=
  convertChar upperExpansions upperRanges c

def isCased (c : Char) : Bool :=
  inRanges casedRanges c.toNat

def isCaseIgnorable (c : Char) : Bool :=
  inRanges caseIgnorableRanges c.toNat

/-- Whether the first character that is not case-ignorable has a case. -/
def reachesCased (cs : List Char) : Bool :=
  match cs.dropWhile isCaseIgnorable with
  | c :: _ => isCased c
  | [] => false

/-- Lower-case a text, given the characters before it, nearest first. A capital sigma is
    final when a cased character comes before it in its word and none after it. -/
def lowercaseAfter (before : List Char) : List Char → List Char
  | [] => []
  | c :: after =>
    let image :=
      if c = 'Σ' then
        [if reachesCased before && !reachesCased after then 'ς' else 'σ']
      else lowerChar c
    image ++ lowercaseAfter (c :: before) after

/-- Lower-case a whole text. -/
def lowercase (s : String) : String :=
  String.ofList (lowercaseAfter [] s.toList)

/-- Upper-case a whole text. -/
def uppercase (s : String) : String :=
  String.ofList (s.toList.flatMap upperChar)

end ClientGen.Text
