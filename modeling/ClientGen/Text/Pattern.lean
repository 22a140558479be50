/-! # Patterns

Regular expressions over characters: what they are, how they are written, and whether a text
contains a match. All ways to match are followed at once, so that repetition in a repetition costs
no more than the text is long.
-/

namespace ClientGen.Text

/-- Characters between two code points, both included. -/
structure CharRange where
  first : Nat
  last : Nat
  deriving Repr, DecidableEq

/-- A regular expression. -/
inductive Pattern where
  | empty
  /-- One character that is in one of the ranges or, if `negated`, in none. -/
  | one (negated : Bool) (ranges : List CharRange)
  /-- The start of the text. -/
  | start
  /-- The end of the text. -/
  | stop
  /-- A place where a word starts or ends or, if not `edge`, any other place. -/
  | boundary (edge : Bool)
  | seq (first second : Pattern)
  | either (first second : Pattern)
  /-- `least` times or more, but not more than `most`. -/
  | loop (least : Nat) (most : Option Nat) (body : Pattern)
  /-- A place where a match starts or, if not `present`, where none does. -/
  | ahead (present : Bool) (body : Pattern)
  deriving Repr, DecidableEq

namespace Pattern

/-- A place in a text: the character before it, and what follows. -/
structure Place where
  before : Option Char
  rest : List Char
  deriving DecidableEq

/-- Digits of ASCII. -/
def digits : List CharRange :=
  [⟨'0'.toNat, '9'.toNat⟩]

/-- Letters and digits of ASCII, and the underscore. -/
def wordChars : List CharRange :=
  [⟨'0'.toNat, '9'.toNat⟩, ⟨'A'.toNat, 'Z'.toNat⟩, ⟨'_'.toNat, '_'.toNat⟩, ⟨'a'.toNat, 'z'.toNat⟩]

/-- Blanks and line ends. -/
def blanks : List CharRange := [
  ⟨0x09, 0x0d⟩, ⟨0x20, 0x20⟩, ⟨0xa0, 0xa0⟩, ⟨0x1680, 0x1680⟩, ⟨0x2000, 0x200a⟩,
  ⟨0x2028, 0x2029⟩, ⟨0x202f, 0x202f⟩, ⟨0x205f, 0x205f⟩, ⟨0x3000, 0x3000⟩, ⟨0xfeff, 0xfeff⟩]

/-- The characters from `low` on that are in none of the ranges, which are sorted and do not
    overlap. -/
def complement (low : Nat) : List CharRange → List CharRange
  | [] => [⟨low, 0x10ffff⟩]
  | range :: rest =>
    if low < range.first then ⟨low, range.first - 1⟩ :: complement (range.last + 1) rest
    else complement (range.last + 1) rest

def isIn (ranges : List CharRange) (c : Char) : Bool :=
  ranges.any fun range => range.first ≤ c.toNat && c.toNat ≤ range.last

/-- Places without those that occur before. Two places in one text are the same if the same number
    of characters follows. -/
def distinct (places : List Place) : List Place :=
  places.foldl
    (fun kept place =>
      if kept.any fun other => other.rest.length == place.rest.length then kept
      else kept ++ [place])
    []

/-- Where one gets by exactly `n` steps. -/
def stepsOf (step : Place → List Place) : Nat → List Place → List Place
  | 0, places => places
  | n + 1, places => stepsOf step n (distinct (places.flatMap step))

/-- Where one gets by at most `n` steps. -/
def reachable (step : Place → List Place) : Nat → List Place → List Place
  | 0, places => places
  | n + 1, places => distinct (places ++ reachable step n (distinct (places.flatMap step)))

/-- Whether a word starts or ends at a place. -/
def Place.isEdge (place : Place) : Bool :=
  place.before.any (isIn wordChars) != place.rest.head?.any (isIn wordChars)

/-- Where the matches that start at a place end. -/
def ends : Pattern → Place → List Place
  | .empty, place => [place]
  | .one negated ranges, place =>
    match place.rest with
    | c :: rest => if isIn ranges c != negated then [⟨some c, rest⟩] else []
    | [] => []
  | .start, place => if place.before.isNone then [place] else []
  | .stop, place => if place.rest.isEmpty then [place] else []
  | .boundary edge, place => if place.isEdge == edge then [place] else []
  | .seq first second, place => distinct ((first.ends place).flatMap fun next => second.ends next)
  | .either first second, place => distinct (first.ends place ++ second.ends place)
  | .loop least most body, place =>
    let more := (most.map (· - least)).getD place.rest.length
    reachable (fun next => body.ends next) (min more place.rest.length)
      (stepsOf (fun next => body.ends next) least [place])
  | .ahead present body, place => if (body.ends place).isEmpty != present then [place] else []

/-- Whether a match starts at a place or behind it. -/
def occursFrom (pattern : Pattern) (before : Option Char) : List Char → Bool
  | [] => !(pattern.ends ⟨before, []⟩).isEmpty
  | c :: rest => !(pattern.ends ⟨before, c :: rest⟩).isEmpty || occursFrom pattern (some c) rest

/-- Whether a text contains a match. -/
def occursIn (pattern : Pattern) (s : String) : Bool :=
  pattern.occursFrom none s.toList

/-- A single character. -/
def char (c : Char) : Pattern :=
  .one false [⟨c.toNat, c.toNat⟩]

/-- A hexadecimal number of exactly `n` digits. -/
def hexDigits : Nat → Nat → List Char → Option (Nat × List Char)
  | 0, value, cs => some (value, cs)
  | n + 1, value, c :: cs =>
    if c.isDigit then hexDigits n (16 * value + (c.toNat - '0'.toNat)) cs
    else if 'a' ≤ c && c ≤ 'f' then hexDigits n (16 * value + (c.toNat - 'a'.toNat + 10)) cs
    else if 'A' ≤ c && c ≤ 'F' then hexDigits n (16 * value + (c.toNat - 'A'.toNat + 10)) cs
    else none
  | _ + 1, _, [] => none

/-- The characters that an escape stands for, behind its backslash. -/
def escaped : List Char → Option (List CharRange × List Char)
  | 'd' :: cs => some (digits, cs)
  | 'D' :: cs => some (complement 0 digits, cs)
  | 'w' :: cs => some (wordChars, cs)
  | 'W' :: cs => some (complement 0 wordChars, cs)
  | 's' :: cs => some (blanks, cs)
  | 'S' :: cs => some (complement 0 blanks, cs)
  | 'n' :: cs => some (exactly 0x0a, cs)
  | 't' :: cs => some (exactly 0x09, cs)
  | 'r' :: cs => some (exactly 0x0d, cs)
  | 'f' :: cs => some (exactly 0x0c, cs)
  | 'v' :: cs => some (exactly 0x0b, cs)
  | 'x' :: cs => (hexDigits 2 0 cs).map fun (n, rest) => (exactly n, rest)
  | 'u' :: cs => (hexDigits 4 0 cs).map fun (n, rest) => (exactly n, rest)
  | c :: cs => if c.isAlphanum then none else some (exactly c.toNat, cs)
  | [] => none
where
  exactly (n : Nat) : List CharRange := [⟨n, n⟩]

/-- One member of a character class: the characters of an escape, or a character. -/
def classAtom : List Char → Option (List CharRange × List Char)
  | '\\' :: 'b' :: cs => some ([⟨8, 8⟩], cs)
  | '\\' :: cs => escaped cs
  | c :: cs => some ([⟨c.toNat, c.toNat⟩], cs)
  | [] => none

/-- The members of a character class up to its closing bracket. -/
def classMembers (negated : Bool) : Nat → List CharRange → List Char →
    Option (Pattern × List Char)
  | 0, _, _ => none
  | fuel + 1, ranges, cs =>
    match cs with
    | ']' :: rest => if ranges.isEmpty then none else some (.one negated ranges, rest)
    | cs => do
      let (low, rest) ← classAtom cs
      match low, rest with
      | [⟨first, last⟩], '-' :: c :: more =>
        if c = ']' || first ≠ last then classMembers negated fuel (ranges ++ low) rest
        else
          let (high, more) ← classAtom (c :: more)
          match high with
          | [⟨top, _⟩] =>
            if top < first then none
            else classMembers negated fuel (ranges ++ [⟨first, top⟩]) more
          | _ => none
      | low, rest => classMembers negated fuel (ranges ++ low) rest

/-- A decimal number, if there is one. -/
def number? (cs : List Char) : Option (Nat × List Char) :=
  match cs.takeWhile Char.isDigit with
  | [] => none
  | ds => some (ds.foldl (fun n d => 10 * n + (d.toNat - '0'.toNat)) 0, cs.dropWhile Char.isDigit)

/-- Bounds of a repetition between braces, behind the opening one. -/
def bounds? (cs : List Char) : Option (Nat × Option Nat × List Char) := do
  let (least, rest) ← number? cs
  match rest with
  | '\x7d' :: rest => some (least, some least, rest)
  | ',' :: '\x7d' :: rest => some (least, none, rest)
  | ',' :: rest =>
    let (most, rest) ← number? rest
    match rest with
    | '\x7d' :: rest => if least ≤ most then some (least, some most, rest) else none
    | _ => none
  | _ => none

/-- How often something is repeated, if it is. -/
def repetition? : List Char → Option (Nat × Option Nat × List Char)
  | '*' :: rest => some (0, none, rest)
  | '+' :: rest => some (1, none, rest)
  | '?' :: rest => some (0, some 1, rest)
  | '\x7b' :: rest => bounds? rest
  | _ => none

/-- A pattern with the repetitions that follow it. Whether a repetition is greedy makes no
    difference to what it matches. -/
def repeated : Nat → Pattern → List Char → Pattern × List Char
  | 0, pattern, cs => (pattern, cs)
  | fuel + 1, pattern, cs =>
    match repetition? cs with
    | some (least, most, rest) =>
      let rest := match rest with
        | '?' :: rest => rest
        | rest => rest
      repeated fuel (.loop least most pattern) rest
    | none => (pattern, cs)

mutual

/-- Alternatives, up to a closing parenthesis or the end. -/
def readEither : Nat → List Char → Option (Pattern × List Char)
  | 0, _ => none
  | fuel + 1, cs => do
    let (first, rest) ← readSeq fuel cs
    match rest with
    | '|' :: rest =>
      let (second, rest) ← readEither fuel rest
      return (.either first second, rest)
    | rest => return (first, rest)

/-- Patterns one after the other. -/
def readSeq : Nat → List Char → Option (Pattern × List Char)
  | 0, _ => none
  | fuel + 1, cs =>
    match cs with
    | [] => some (.empty, [])
    | '|' :: _ | ')' :: _ => some (.empty, cs)
    | cs => do
      let (atom, rest) ← readAtom fuel cs
      let (first, rest) := repeated rest.length atom rest
      let (second, rest) ← readSeq fuel rest
      return (.seq first second, rest)

/-- A pattern that a repetition can follow. -/
def readAtom : Nat → List Char → Option (Pattern × List Char)
  | 0, _ => none
  | fuel + 1, cs =>
    match cs with
    | '(' :: '?' :: ':' :: rest => readGroup fuel rest
    | '(' :: '?' :: '=' :: rest => do
      let (body, rest) ← readGroup fuel rest
      return (.ahead true body, rest)
    | '(' :: '?' :: '!' :: rest => do
      let (body, rest) ← readGroup fuel rest
      return (.ahead false body, rest)
    | '(' :: '?' :: _ => none
    | '(' :: rest => readGroup fuel rest
    | '[' :: '^' :: rest => classMembers true (rest.length + 1) [] rest
    | '[' :: rest => classMembers false (rest.length + 1) [] rest
    | '.' :: rest => some (.one true [⟨0x0a, 0x0a⟩], rest)
    | '^' :: rest => some (.start, rest)
    | '$' :: rest => some (.stop, rest)
    | '\\' :: 'b' :: rest => some (.boundary true, rest)
    | '\\' :: 'B' :: rest => some (.boundary false, rest)
    | '\\' :: rest => (escaped rest).map fun (ranges, rest) => (.one false ranges, rest)
    | c :: rest => if c = '*' || c = '+' || c = '?' then none else some (char c, rest)
    | [] => none

/-- A pattern in parentheses, behind the opening one. -/
def readGroup : Nat → List Char → Option (Pattern × List Char)
  | 0, _ => none
  | fuel + 1, cs => do
    let (body, rest) ← readEither fuel cs
    match rest with
    | ')' :: rest => return (body, rest)
    | _ => none

end

/-- The pattern that a text writes down. -/
def parse? (source : String) : Option Pattern :=
  match readEither (4 * source.length + 4) source.toList with
  | some (pattern, []) => some pattern
  | _ => none

end Pattern

end ClientGen.Text
