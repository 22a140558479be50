import ClientGen.Template.Token
import ClientGen.Template.Tree

/-! # Reading template trees

From the tokens of a template to its statements. Operators bind, from loosest to tightest:
`or`, `and`, `not`, comparisons, sums, joins, products, powers, the minus sign, and last
attributes, subscripts, calls, filters and tests.

The statements are `for`, `if`, `set`, `with`, `filter`, `macro` and `include`; that a loop is
`recursive` is read over. This is a part of the template language: a template with `block`,
`extends`, `import`, `from`, `call`, `do` or `autoescape` is refused here.
-/

namespace ClientGen.Template

def Token.isMark (s : String) : Token → Bool
  | .mark t => s == t
  | _ => false

def Token.isWord (s : String) : Token → Bool
  | .ident t => s == t
  | _ => false

def Token.isStatementEnd : Token → Bool
  | .statementEnd => true
  | _ => false

def Token.isValueEnd : Token → Bool
  | .valueEnd => true
  | _ => false

namespace Reading

/-- An error and the line it is reported at. -/
structure Failure where
  line : Nat
  error : Error

/-- Tokens that are unread. -/
structure Cursor where
  rest : List Placed
  /-- Line of the last token that was read. -/
  last : Nat
  /-- Line of the last name or constant that was read. -/
  leaf : Nat

namespace Cursor

def fail (c : Cursor) (detail : String) : Except Failure α :=
  .error ⟨c.last, .badForm detail⟩

/-- A token that could not be read fails where it starts; a bad escape is noticed only when
    the token is used, and fails where the reading is. -/
def failAt (c : Cursor) (line : Nat) (error : Error) : Except Failure α :=
  .error ⟨if error.kind = .badEscape then c.last else line, error⟩

def unexpected (c : Cursor) (token : Token) (expected : String) : Except Failure α :=
  c.fail ("unexpected " ++ token.shown ++ ", expected " ++ expected)

def unexpectedEnd (c : Cursor) (expected : String) : Except Failure α :=
  c.fail ("unexpected end of input, expected " ++ expected)

def tooDeep (c : Cursor) : Except Failure α :=
  c.fail "template exceeds maximum recursion limits"

/-- The next token, unread. -/
def peek (c : Cursor) : Except Failure (Option Token) :=
  match c.rest with
  | [] => .ok none
  | ⟨.fault error, line⟩ :: _ => c.failAt line error
  | ⟨token, _⟩ :: _ => .ok (some token)

/-- Read the next token. -/
def next (c : Cursor) (expected : String) : Except Failure (Token × Cursor) :=
  match c.rest with
  | [] => c.unexpectedEnd expected
  | ⟨.fault error, line⟩ :: _ => c.failAt line error
  | ⟨token, line⟩ :: rest => .ok (token, { c with rest, last := line })

/-- Read the next token if there is one. -/
def drop (c : Cursor) : Except Failure Cursor :=
  match c.rest with
  | [] => .ok c
  | _ => (c.next "").map (·.2)

/-- Whether the next token satisfies `p`. -/
def sees (c : Cursor) (p : Token → Bool) : Except Failure Bool :=
  c.peek.map (·.any p)

/-- Read the next token if it satisfies `p`. -/
def skip? (c : Cursor) (p : Token → Bool) : Except Failure (Option Cursor) := do
  if ← c.sees p then
    let (_, c) ← c.next ""
    return some c
  else return none

/-- Read a token that has to satisfy `p`. -/
def expect (c : Cursor) (p : Token → Bool) (expected : String) : Except Failure Cursor := do
  let (token, c) ← c.next expected
  if p token then return c else c.unexpected token expected

def expectMark (c : Cursor) (mark : String) : Except Failure Cursor :=
  c.expect (·.isMark mark) ("`" ++ mark ++ "`")

def expectStatementEnd (c : Cursor) : Except Failure Cursor :=
  c.expect Token.isStatementEnd "end of block"

def identifier (c : Cursor) : Except Failure (String × Cursor) := do
  match ← c.next "identifier" with
  | (.ident name, c) => return (name, c)
  | (token, c) => c.unexpected token "identifier"

/-- Take the last token that was read for a name or a constant. -/
def mark (c : Cursor) : Cursor :=
  { c with leaf := c.last }

/-- Bounds the nesting of calls while the tokens are read: between two tokens fewer than
    sixteen calls are nested. -/
def budget (c : Cursor) : Nat :=
  16 * (c.rest.length + 1)

end Cursor

/-- The arithmetic operators of one level of binding. -/
def arithmetic? (level : Nat) (mark : String) : Option Operator :=
  match level, mark with
  | 4, "+" => some .add
  | 4, "-" => some .subtract
  | 5, "~" => some .join
  | 6, "*" => some .multiply
  | 6, "/" => some .divide
  | 6, "//" => some .floorDivide
  | 6, "%" => some .remainder
  | 7, "**" => some .power
  | _, _ => none

/-- How an operator of one level of binding builds an expression. `first` is the line of its
    left operand, which decides alone whether `and` and `or` fail, `last` that of the right
    one. -/
def operatorAt (level : Nat) (token : Token) :
    Option ((first last : Nat) → (left right : Expr) → Expr) :=
  match level, token with
  | 0, .ident "or" => some fun first _ => .either first
  | 1, .ident "and" => some fun first _ => .both first
  | level, .mark mark => (arithmetic? level mark).map fun operator _ last => .binary last operator
  | _, _ => none

def comparison? : Token → Option Operator
  | .mark "==" => some .equal
  | .mark "!=" => some .different
  | .mark "<" => some .less
  | .mark "<=" => some .atMost
  | .mark ">" => some .greater
  | .mark ">=" => some .atLeast
  | .ident "in" => some .element
  | _ => none

/-- Whether a token can start the argument of a test that is written without parentheses. -/
def startsArgument : Token → Bool
  | .ident name => name ∉ ["and", "or", "else", "is"]
  | .str _ | .int _ | .float _ => true
  | .mark s => ["+", "-", "[", "\x7b"].contains s
  | _ => false

/-- What is called when arguments follow an expression. -/
def callOf (line : Nat) (callee : Expr) (args : Args) : Expr :=
  match callee with
  | .name id => .call line id args
  | .attribute _ subject name => .callMethod line subject name args
  | callee => .callValue line callee args

mutual

def readExpr : Nat → Cursor → Except Failure (Expr × Cursor)
  | 0, c => c.tooDeep
  | fuel + 1, c => do
    let (e, c) ← readLevel fuel 0 c
    readChoices fuel e c

/-- Conditions behind an expression. -/
def readChoices : Nat → Expr → Cursor → Except Failure (Expr × Cursor)
  | 0, _, c => c.tooDeep
  | fuel + 1, e, c => do
    match ← c.skip? (·.isWord "if") with
    | none => return (e, c)
    | some c =>
      let (test, c) ← readLevel fuel 0 c
      let line := c.leaf
      match ← c.skip? (·.isWord "else") with
      | none => readChoices fuel (.choice line test e none) c
      | some c =>
        let (no, c) ← readExpr fuel c
        readChoices fuel (.choice line test e (some no)) c

/-- An expression whose operators bind at least as tightly as `level`. -/
def readLevel : Nat → Nat → Cursor → Except Failure (Expr × Cursor)
  | 0, _, c => c.tooDeep
  | fuel + 1, level, c => do
    if level = 2 then
      match ← c.skip? (·.isWord "not") with
      | none => readLevel fuel 3 c
      | some c =>
        let (e, c) ← readLevel fuel 2 c
        return (.not c.leaf e, c)
    else if level = 3 then
      let (left, c) ← readLevel fuel 4 c
      readComparisons fuel left c
    else if level = 8 then
      let (e, c) ← readNegation fuel c
      let (e, c) ← readPostfix fuel e c
      readFilters fuel e c
    else
      let (left, c) ← readLevel fuel (level + 1) c
      readOperators fuel level left c

/-- Operators of one level behind their first operand. -/
def readOperators : Nat → Nat → Expr → Cursor → Except Failure (Expr × Cursor)
  | 0, _, _, c => c.tooDeep
  | fuel + 1, level, left, c => do
    match (← c.peek).bind (operatorAt level) with
    | none => return (left, c)
    | some build =>
      let first := c.leaf
      let c ← c.drop
      let (right, c) ← readLevel fuel (level + 1) c
      readOperators fuel level (build first c.leaf left right) c

/-- Comparisons behind their first operand. -/
def readComparisons : Nat → Expr → Cursor → Except Failure (Expr × Cursor)
  | 0, _, c => c.tooDeep
  | fuel + 1, left, c => do
    let token ← c.peek
    if token.any (·.isWord "not") then
      let c ← c.drop
      let c ← c.expect (·.isWord "in") "in"
      let (right, c) ← readLevel fuel 4 c
      readComparisons fuel (.not c.leaf (.binary c.leaf .element left right)) c
    else
      match token.bind comparison? with
      | none => return (left, c)
      | some operator =>
        let c ← c.drop
        let (right, c) ← readLevel fuel 4 c
        readComparisons fuel (.binary c.leaf operator left right) c

def readNegation : Nat → Cursor → Except Failure (Expr × Cursor)
  | 0, c => c.tooDeep
  | fuel + 1, c => do
    match ← c.skip? (·.isMark "-") with
    | none => readPrimary fuel c
    | some c =>
      let line := c.last
      let (e, c) ← readNegation fuel c
      return (.negate line e, c)

/-- A constant, a name, or an expression in brackets. -/
def readPrimary : Nat → Cursor → Except Failure (Expr × Cursor)
  | 0, c => c.tooDeep
  | fuel + 1, c => do
    let (token, c) ← c.next "expression"
    match token with
    | .ident "true" | .ident "True" => return (.literal (.bool true), c.mark)
    | .ident "false" | .ident "False" => return (.literal (.bool false), c.mark)
    | .ident "none" | .ident "None" => return (.literal .none, c.mark)
    | .ident name => return (.name name, c.mark)
    | .str s => return (.literal (.str s), c.mark)
    | .int n => return (.literal (.int n), c.mark)
    | .float x => return (.literal (.float x), c.mark)
    | .mark "(" =>
      match ← c.skip? (·.isMark ")") with
      | some c => return (.list [], c)
      | none =>
        let (e, c) ← readExpr fuel c
        if ← c.sees (·.isMark ",") then
          let (items, c) ← readItems fuel ")" false c
          return (.list (e :: items), c)
        else return (e, ← c.expectMark ")")
    | .mark "[" =>
      let (items, c) ← readItems fuel "]" true c
      return (.list items, c)
    | .mark "\x7b" =>
      let (entries, c) ← readEntries fuel true c
      return (.map entries, c)
    | token => c.fail ("unexpected " ++ token.shown)

/-- Items up to a closing bracket; each but the first has a comma before it, and a comma may
    stand before the bracket. -/
def readItems : Nat → String → Bool → Cursor → Except Failure (List Expr × Cursor)
  | 0, _, _, c => c.tooDeep
  | fuel + 1, closing, first, c => do
    match ← c.skip? (·.isMark closing) with
    | some c => return ([], c)
    | none =>
      let c ← if first then pure c else c.expectMark ","
      match ← c.skip? (·.isMark closing) with
      | some c => return ([], c)
      | none =>
        let (item, c) ← readExpr fuel c
        let (items, c) ← readItems fuel closing false c
        return (item :: items, c)

/-- Entries of a map up to its closing brace. -/
def readEntries : Nat → Bool → Cursor → Except Failure (List (Expr × Expr) × Cursor)
  | 0, _, c => c.tooDeep
  | fuel + 1, first, c => do
    match ← c.skip? (·.isMark "\x7d") with
    | some c => return ([], c)
    | none =>
      let c ← if first then pure c else c.expectMark ","
      match ← c.skip? (·.isMark "\x7d") with
      | some c => return ([], c)
      | none =>
        let (key, c) ← readExpr fuel c
        let c ← c.expectMark ":"
        let (value, c) ← readExpr fuel c
        let (entries, c) ← readEntries fuel false c
        return ((key, value) :: entries, c)

/-- Attributes, subscripts and calls behind an expression. -/
def readPostfix : Nat → Expr → Cursor → Except Failure (Expr × Cursor)
  | 0, _, c => c.tooDeep
  | fuel + 1, e, c => do
    match ← c.peek with
    | some (.mark ".") =>
      let c ← c.drop
      match ← c.next "identifier" with
      | (.ident name, c) => readPostfix fuel (.attribute c.leaf e name) c
      | (.int n, c) => readPostfix fuel (.item c.leaf e (.literal (.int n))) c
      | (token, c) => c.unexpected token "identifier"
    | some (.mark "[") =>
      let c ← c.drop
      let (e, c) ← readSubscript fuel e c
      readPostfix fuel e c
    | some (.mark "(") =>
      let c ← c.drop
      let (args, c) ← readArgs fuel true false c
      readPostfix fuel (callOf c.leaf e args) c
    | _ => return (e, c)

/-- A subscript or a slice, behind its opening bracket. -/
def readSubscript : Nat → Expr → Cursor → Except Failure (Expr × Cursor)
  | 0, _, c => c.tooDeep
  | fuel + 1, e, c => do
    let (start, c) ← readUnless fuel [":"] c
    match ← c.skip? (·.isMark ":") with
    | none =>
      let c ← c.expectMark "]"
      match start with
      | some key => return (.item c.leaf e key, c)
      | none => c.fail "empty subscript"
    | some c =>
      let (stop, c) ← readUnless fuel ["]", ":"] c
      match ← c.skip? (·.isMark ":") with
      | none =>
        let c ← c.expectMark "]"
        return (.slice c.leaf e start stop none, c)
      | some c =>
        let (step, c) ← readUnless fuel ["]"] c
        let c ← c.expectMark "]"
        return (.slice c.leaf e start stop step, c)

/-- An expression, unless one of the given marks comes next. -/
def readUnless : Nat → List String → Cursor → Except Failure (Option Expr × Cursor)
  | 0, _, c => c.tooDeep
  | fuel + 1, marks, c => do
    if ← c.sees (fun token => marks.any token.isMark) then return (none, c)
    else
      let (e, c) ← readExpr fuel c
      return (some e, c)

/-- Arguments up to the closing parenthesis. Positional ones come before named ones. -/
def readArgs : Nat → Bool → Bool → Cursor → Except Failure (Args × Cursor)
  | 0, _, _, c => c.tooDeep
  | fuel + 1, first, named, c => do
    match ← c.skip? (·.isMark ")") with
    | some c => return ([], c)
    | none =>
      let c ← if first then pure c else c.expectMark ","
      match ← c.skip? (·.isMark ")") with
      | some c => return ([], c)
      | none =>
        let (e, c) ← readExpr fuel c
        let assigned ← match e with
          | .name id => do pure ((← c.skip? (·.isMark "=")).map (id, ·))
          | _ => pure none
        match assigned with
        | some (id, c) =>
          let (value, c) ← readLevel fuel 0 c
          let (args, c) ← readArgs fuel false true c
          return ((some id, value) :: args, c)
        | none =>
          if named then c.fail "non-keyword arg after keyword arg"
          else
            let (args, c) ← readArgs fuel false false c
            return ((none, e) :: args, c)

/-- Filters and tests behind an expression. -/
def readFilters : Nat → Expr → Cursor → Except Failure (Expr × Cursor)
  | 0, _, c => c.tooDeep
  | fuel + 1, e, c => do
    match ← c.peek with
    | some (.mark "|") =>
      let c ← c.drop
      let (name, c) ← c.identifier
      let (args, c) ← readOptionalArgs fuel c
      readFilters fuel (.filter c.leaf e name args) c
    | some (.ident "is") =>
      let c ← c.drop
      let negated ← c.skip? (·.isWord "not")
      let c := negated.getD c
      let (name, c) ← c.identifier
      let (args, c) ← readTestArgs fuel c
      let test := Expr.test c.leaf e name args
      readFilters fuel (if negated.isSome then .not c.leaf test else test) c
    | _ => return (e, c)

/-- Arguments in parentheses, if there are parentheses. -/
def readOptionalArgs : Nat → Cursor → Except Failure (Args × Cursor)
  | 0, c => c.tooDeep
  | fuel + 1, c => do
    match ← c.skip? (·.isMark "(") with
    | some c => readArgs fuel true false c
    | none => return ([], c)

/-- Arguments of a test: in parentheses, or a single one without. -/
def readTestArgs : Nat → Cursor → Except Failure (Args × Cursor)
  | 0, c => c.tooDeep
  | fuel + 1, c => do
    if ← c.sees startsArgument then
      let (e, c) ← readNegation fuel c
      let (e, c) ← readPostfix fuel e c
      return ([(none, e)], c)
    else readOptionalArgs fuel c

end

def Cursor.expr (c : Cursor) : Except Failure (Expr × Cursor) :=
  readExpr c.budget c

/-- An expression without a condition behind it. -/
def Cursor.plainExpr (c : Cursor) : Except Failure (Expr × Cursor) :=
  readLevel c.budget 0 c

def Cursor.optionalArgs (c : Cursor) : Except Failure (Args × Cursor) :=
  readOptionalArgs c.budget c

/-- Names that a template cannot assign to. -/
def reservedNames : List String :=
  ["true", "True", "false", "False", "none", "None", "loop", "self"]

/-- A name that is assigned to. -/
def Cursor.assignable (c : Cursor) : Except Failure (String × Cursor) := do
  let (name, c) ← c.identifier
  if reservedNames.contains name then
    c.fail ("cannot assign to reserved variable name " ++ name)
  else return (name, c)

/-- Attributes behind a name that is assigned to. -/
def readPath : Nat → Expr → Cursor → Except Failure (Expr × Cursor)
  | 0, _, c => c.tooDeep
  | fuel + 1, e, c => do
    match ← c.skip? (·.isMark ".") with
    | none => return (e, c)
    | some c =>
      let (name, c) ← c.identifier
      readPath fuel (.attribute c.leaf e name) c

/-- Whether a token ends a list of targets. -/
def endsTargets : Token → Bool
  | .mark ")" | .valueEnd | .statementEnd | .ident "in" => true
  | _ => false

mutual

/-- One target, or a list of them if there is a comma. -/
def readTargets : Nat → Cursor → Except Failure (Target × Cursor)
  | 0, c => c.tooDeep
  | fuel + 1, c => do
    let (items, isList, c) ← readTargetItems fuel true c
    match items, isList with
    | [item], false => return (item, c)
    | items, _ => return (.list items, c)

/-- Targets, and whether a comma stood behind one of them. -/
def readTargetItems : Nat → Bool → Cursor → Except Failure (List Target × Bool × Cursor)
  | 0, _, c => c.tooDeep
  | fuel + 1, first, c => do
    let c ← if first then pure c else c.expectMark ","
    if ← c.sees endsTargets then return ([], false, c)
    else
      let (item, c) ← readTarget fuel c
      if ← c.sees (·.isMark ",") then
        let (items, _, c) ← readTargetItems fuel false c
        return (item :: items, true, c)
      else return ([item], false, c)

/-- A name, or targets in parentheses. -/
def readTarget : Nat → Cursor → Except Failure (Target × Cursor)
  | 0, c => c.tooDeep
  | fuel + 1, c => do
    match ← c.skip? (·.isMark "(") with
    | some c =>
      let (target, c) ← readTargets fuel c
      return (target, ← c.expectMark ")")
    | none =>
      let (name, c) ← c.assignable
      return (.name name, c)

end

/-- Filters in a row, each but the first behind a bar. -/
def readTextFilters : Nat → Bool → Cursor → Except Failure (List TextFilter × Cursor)
  | 0, _, c => c.tooDeep
  | fuel + 1, first, c => do
    if ← c.sees Token.isStatementEnd then
      if first then c.fail "expected a filter" else return ([], c)
    else
      let c ← if first then pure c else c.expectMark "|"
      let (name, c) ← c.identifier
      let (args, c) ← c.optionalArgs
      let (filters, c) ← readTextFilters fuel false c
      return (⟨c.leaf, name, args⟩ :: filters, c)

/-- Assignments of a scope up to the end of its statement. -/
def readBindings : Nat → Bool → Cursor → Except Failure (List (Target × Expr) × Cursor)
  | 0, _, c => c.tooDeep
  | fuel + 1, first, c => do
    if ← c.sees Token.isStatementEnd then return ([], c)
    else
      let c ← if first then pure c else c.expect (·.isMark ",") "comma"
      let (target, c) ← readTarget fuel c
      let c ← c.expect (·.isMark "=") "assignment operator"
      let (value, c) ← c.expr
      let (bindings, c) ← readBindings fuel false c
      return ((target, value) :: bindings, c)

/-- Parameters up to the closing parenthesis. Behind one with a default, all have one. -/
def readParams : Nat → Bool → Bool → Cursor →
    Except Failure (List (String × Option Expr) × Cursor)
  | 0, _, _, c => c.tooDeep
  | fuel + 1, first, defaulted, c => do
    match ← c.skip? (·.isMark ")") with
    | some c => return ([], c)
    | none =>
      let c ← if first then pure c else c.expectMark ","
      match ← c.skip? (·.isMark ")") with
      | some c => return ([], c)
      | none =>
        let (name, c) ← c.assignable
        match ← c.skip? (·.isMark "=") with
        | some c =>
          let (value, c) ← c.expr
          let (params, c) ← readParams fuel false true c
          return ((name, some value) :: params, c)
        | none =>
          let c ← if defaulted then c.expectMark "=" else pure c
          let (params, c) ← readParams fuel false defaulted c
          return ((name, none) :: params, c)

/-- The words behind the name of an embedded template, and whether it may be missing. -/
def readEmbedOptions (c : Cursor) : Except Failure (Bool × Cursor) := do
  let c ← readContext c
  match ← c.skip? (·.isWord "ignore") with
  | none => return (false, c)
  | some c =>
    let c ← c.expect (·.isWord "missing") "missing keyword"
    return (true, ← readContext c)
where
  readContext (c : Cursor) : Except Failure Cursor := do
    match ← c.skip? fun token => token.isWord "without" || token.isWord "with" with
    | none => return c
    | some c => c.expect (·.isWord "context") "missing keyword"

mutual

/-- Statements up to one of the words `ends`, which is left unread, or to the end of the
    template. -/
def readStmts : Nat → List String → Cursor → Except Failure (List Stmt × Cursor)
  | 0, _, c => c.tooDeep
  | fuel + 1, ends, c => do
    if c.rest.isEmpty then return ([], c)
    else
      let (token, c) ← c.next "statement"
      match token with
      | .text s =>
        let (stmts, c) ← readStmts fuel ends c
        return (.text s :: stmts, c)
      | .valueStart =>
        let (value, c) ← c.mark.expr
        let stmt := Stmt.print c.leaf value
        let c ← c.expect Token.isValueEnd "end of variable block"
        let (stmts, c) ← readStmts fuel ends c
        return (stmt :: stmts, c)
      | _ =>
        match ← c.peek with
        | none => c.unexpectedEnd "keyword"
        | some token =>
          if ends.any token.isWord then return ([], c)
          else
            let (stmt, c) ← readStmt fuel c
            let c ← c.expectStatementEnd
            let (stmts, c) ← readStmts fuel ends c
            return (stmt :: stmts, c)

/-- A statement, without the delimiter that ends its last part. -/
def readStmt : Nat → Cursor → Except Failure (Stmt × Cursor)
  | 0, c => c.tooDeep
  | fuel + 1, c => do
    let (token, c) ← c.next "statement"
    let c := c.mark
    match token with
    | .ident "for" =>
      let (target, c) ← readTargets c.budget c
      let c ← c.expect (·.isWord "in") "in"
      let (source, c) ← c.plainExpr
      let line := c.leaf
      let (keep, c) ← match ← c.skip? (·.isWord "if") with
        | some c => do
          let (e, c) ← c.expr
          pure (some (c.leaf, e), c)
        | none => pure (none, c)
      let c := (← c.skip? (·.isWord "recursive")).getD c
      let c ← c.expectStatementEnd
      let (body, c) ← readStmts fuel ["endfor", "else"] c
      let (otherwise, c) ← match ← c.skip? (·.isWord "else") with
        | some c => do
          let c ← c.expectStatementEnd
          readStmts fuel ["endfor"] c
        | none => pure ([], c)
      return (.each line target source keep body otherwise, ← c.drop)
    | .ident "if" => readBranch fuel c
    | .ident "set" =>
      let (target, isGroup, c) ← match ← c.skip? (·.isMark "(") with
        | some c => do
          let (target, c) ← readTargets c.budget c
          pure (target, true, ← c.expectMark ")")
        | none => do
          let (name, c) ← c.assignable
          match ← readPath c.budget (.name name) c with
          | (.name id, c) => pure (Target.name id, false, c)
          | (subject, c) => pure (Target.attribute subject, false, c)
      let captures ← c.sees fun token => token.isStatementEnd || token.isMark "|"
      if captures && !isGroup then
        let line := c.leaf
        let (filters, c) ← match ← c.skip? (·.isMark "|") with
          | some c => readTextFilters c.budget true c
          | none => pure ([], c)
        let c ← c.expectStatementEnd
        let (body, c) ← readStmts fuel ["endset"] c
        return (.capture line target filters body, ← c.drop)
      else
        let c ← c.expect (·.isMark "=") "assignment operator"
        let (value, c) ← c.expr
        return (.assign c.leaf target value, c)
    | .ident "with" =>
      let (bindings, c) ← readBindings c.budget true c
      let line := c.leaf
      let c ← c.expectStatementEnd
      let (body, c) ← readStmts fuel ["endwith"] c
      return (.scope line bindings body, ← c.drop)
    | .ident "filter" =>
      let (filters, c) ← readTextFilters c.budget true c
      let c ← c.expectStatementEnd
      let (body, c) ← readStmts fuel ["endfilter"] c
      return (.filtered filters body, ← c.drop)
    | .ident "macro" =>
      let (name, c) ← c.identifier
      let c ← c.expectMark "("
      let (params, c) ← readParams c.budget true false c
      let c ← c.expectStatementEnd
      let (body, c) ← readStmts fuel ["endmacro"] c
      return (.define name params body, ← c.drop)
    | .ident "include" =>
      let (source, c) ← c.expr
      let line := c.leaf
      let (optional, c) ← readEmbedOptions c
      return (.embed line source optional, c)
    | .ident name => c.fail ("unknown statement " ++ name)
    | token => c.fail ("unknown " ++ token.shown ++ ", expected statement")

/-- A condition and its branches. -/
def readBranch : Nat → Cursor → Except Failure (Stmt × Cursor)
  | 0, c => c.tooDeep
  | fuel + 1, c => do
    let (test, c) ← c.expr
    let line := c.leaf
    let c ← c.expectStatementEnd
    let (yes, c) ← readStmts fuel ["endif", "else", "elif"] c
    match ← c.peek with
    | some (.ident "else") =>
      let c ← (← c.drop).expectStatementEnd
      let (no, c) ← readStmts fuel ["endif"] c
      return (.branch line test yes no, ← c.drop)
    | some (.ident "elif") =>
      let c ← c.drop
      let (no, c) ← readBranch fuel c.mark
      return (.branch line test yes [no], c)
    | _ => return (.branch line test yes [], ← c.drop)

end

end Reading

/-- The statements of a template. -/
def Stmt.readAll (name source : String) : Except Error (List Stmt) :=
  let tokens := Token.scan source
  match Reading.readStmts (tokens.length + 1) [] ⟨tokens, 1, 1⟩ with
  | .ok (stmts, _) => .ok stmts
  | .error failure => .error (failure.error.located name failure.line)

end ClientGen.Template
