/-! # Template trees

What a template says, once it has been read: a list of statements over expressions. Nodes
whose evaluation can fail carry the line that an error names.
-/

namespace ClientGen.Template

/-- A constant. -/
inductive Literal where
  | none
  | bool (b : Bool)
  | int (n : Nat)
  | float (x : Float)
  | str (s : String)
  deriving Repr, Inhabited

/-- An operator that computes a value from two operands. -/
inductive Operator where
  | add | subtract | multiply | divide | floorDivide | remainder | power
  | join
  | equal | different | less | atMost | greater | atLeast
  | element
  deriving Repr, DecidableEq

/-- An expression. The arguments of a call are positional or have a name. -/
inductive Expr where
  | literal (value : Literal)
  | name (id : String)
  | list (items : List Expr)
  | map (entries : List (Expr × Expr))
  | negate (line : Nat) (operand : Expr)
  | not (line : Nat) (operand : Expr)
  | both (line : Nat) (left right : Expr)
  | either (line : Nat) (left right : Expr)
  | binary (line : Nat) (operator : Operator) (left right : Expr)
  /-- The second or the third expression, as the first one decides. Without a third one the
      value is undefined, yet printed as nothing. -/
  | choice (line : Nat) (test yes : Expr) (no : Option Expr)
  | attribute (line : Nat) (subject : Expr) (name : String)
  | item (line : Nat) (subject key : Expr)
  | slice (line : Nat) (subject : Expr) (start stop step : Option Expr)
  | call (line : Nat) (function : String) (args : List (Option String × Expr))
  | callMethod (line : Nat) (subject : Expr) (name : String)
      (args : List (Option String × Expr))
  | callValue (line : Nat) (subject : Expr) (args : List (Option String × Expr))
  | filter (line : Nat) (subject : Expr) (name : String) (args : List (Option String × Expr))
  | test (line : Nat) (subject : Expr) (name : String) (args : List (Option String × Expr))
  deriving Inhabited

/-- The arguments of a call. -/
abbrev Args := List (Option String × Expr)

/-- What a statement assigns to: a name, an attribute of a value, or a list of targets for
    the items of a list. -/
inductive Target where
  | name (id : String)
  | attribute (subject : Expr)
  | list (items : List Target)
  deriving Inhabited

/-- A filter that is applied to a rendered text. -/
structure TextFilter where
  line : Nat
  name : String
  args : Args

/-- A statement. -/
inductive Stmt where
  | text (s : String)
  | print (line : Nat) (value : Expr)
  | branch (line : Nat) (test : Expr) (yes no : List Stmt)
  | each (line : Nat) (target : Target) (source : Expr) (keep : Option (Nat × Expr))
      (body otherwise : List Stmt)
  | assign (line : Nat) (target : Target) (value : Expr)
  | capture (line : Nat) (target : Target) (filters : List TextFilter) (body : List Stmt)
  | scope (line : Nat) (bindings : List (Target × Expr)) (body : List Stmt)
  | filtered (filters : List TextFilter) (body : List Stmt)
  | define (name : String) (params : List (String × Option Expr)) (body : List Stmt)
  | embed (line : Nat) (source : Expr) (optional : Bool)
  deriving Inhabited

end ClientGen.Template
