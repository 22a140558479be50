import ClientGen.Decimal.Printer
import ClientGen.Json.Basic
import ClientGen.Template.Tree
import ClientGen.Text.Quoted

/-! # Template values

What a template computes with: data handed to it, results of its operators, and the things
that its own declarations name. Maps keep the order in which their entries were made.
-/

namespace ClientGen.Template

/-- A template value. -/
inductive Value where
  /-- The value of a name that is not bound. A `silent` one may be printed, as nothing. -/
  | undefined (silent : Bool)
  | none
  | bool (b : Bool)
  | int (i : Int)
  | float (x : Float)
  | str (s : String)
  | list (items : List Value)
  /-- Items that are handed out one after another, as slices and sums of lists are. -/
  | series (items : List Value)
  | map (entries : List (Value × Value))
  /-- A function of the environment, by its name. -/
  | function (name : String)
  /-- A part of the template that takes parameters, and how many scopes enclose it. -/
  | routine (name : String) (params : List (String × Option Expr)) (body : List Stmt)
      (depth : Nat)
  /-- The state of a loop: position, length, the items next to this one, and the values that
      it was last asked to compare. -/
  | loop (index length : Nat) (previous next : Value) (compared : Option (List Value))
  deriving Inhabited

namespace Value

/-- The value of a name that is not bound. -/
def missing : Value := .undefined false

/-- What kind of value this is, as messages name it. -/
def kind : Value → String
  | .undefined _ => "undefined"
  | .none => "none"
  | .bool _ => "bool"
  | .int _ | .float _ => "number"
  | .str _ => "string"
  | .list _ => "sequence"
  | .series _ => "iterator"
  | .map _ => "map"
  | .function _ | .routine .. | .loop .. => "plain object"

/-- Whether the value counts as true in a condition. -/
def isTrue : Value → Bool
  | .undefined _ | .none => false
  | .bool b => b
  | .int i => i != 0
  | .float x => x != 0.0
  | .str s => !s.isEmpty
  | .list items | .series items => !items.isEmpty
  | .map entries => !entries.isEmpty
  | .function _ | .routine .. | .loop .. => true

def isUndefined : Value → Bool
  | .undefined _ => true
  | _ => false

mutual

/-- The text of a value inside a list or a map, where strings are quoted. -/
def inner : Value → String
  | .undefined _ => "undefined"
  | .none => "None"
  | .bool b => if b then "True" else "False"
  | .int i => toString i
  | .float x => Decimal.plainText x
  | .str s => Text.shown s
  | .list items | .series items => "[" ++ ", ".intercalate (innerItems items) ++ "]"
  | .map entries => "\x7b" ++ ", ".intercalate (innerEntries entries) ++ "\x7d"
  | .function name => "<function " ++ name ++ ">"
  | .routine name _ _ _ => "<macro " ++ name ++ ">"
  | .loop index length _ _ _ => "<loop " ++ toString index ++ "/" ++ toString length ++ ">"

def innerItems : List Value → List String
  | [] => []
  | item :: rest => inner item :: innerItems rest

def innerEntries : List (Value × Value) → List String
  | [] => []
  | (key, value) :: rest => (inner key ++ ": " ++ inner value) :: innerEntries rest

end

/-- The text of a value on its own. -/
def text : Value → String
  | .undefined _ => ""
  | .str s => s
  | value => value.inner

/-- The text of a value that is passed where a string is wanted. -/
def argumentText : Value → String
  | .none => "none"
  | .bool b => if b then "true" else "false"
  | value => value.text

/-- A number as a floating-point one; truth values count as one and zero. -/
def float? : Value → Option Float
  | .bool b => some (if b then 1.0 else 0.0)
  | .int i => some (Float.ofInt i)
  | .float x => some x
  | _ => Option.none

/-- Bounds of the whole numbers that are computed with. -/
def maxWhole : Int := 0x7FFFFFFFFFFFFFFFFFFFFFFFFFFFFFFF

def minWhole : Int := -0x80000000000000000000000000000000

/-- A number as a whole one, if it is. -/
def int? : Value → Option Int
  | .bool b => some (if b then 1 else 0)
  | .int i => if i ≤ maxWhole then some i else Option.none
  | .float x =>
    let i := x.toInt64.toInt
    if Float.ofInt i == x then some i else Option.none
  | _ => Option.none

/-- Two numbers brought to one kind. -/
inductive Pair where
  | ints (a b : Int)
  | floats (a b : Float)

/-- Bring two numbers to one kind: floating-point if one of them is. -/
def pair? (a b : Value) : Option Pair :=
  match a, b with
  | .float x, _ => b.float?.map (.floats x)
  | _, .float y => a.float?.map (.floats · y)
  | _, _ => do return .ints (← a.int?) (← b.int?)

/-- Equality of values that are no lists and maps. Numbers are equal by value. -/
def sameLeaf (a b : Value) : Bool :=
  match a, b with
  | .undefined _, .undefined _ => true
  | .none, .none => true
  | .str s, .str t => s == t
  | _, _ =>
    match a.pair? b with
    | some (.ints i j) => i == j
    | some (.floats x y) => x == y
    | Option.none => false

mutual

/-- Equality of values. Maps are equal if they have the same entries in any order. -/
def same : Value → Value → Bool
  | .list as, .list bs | .list as, .series bs | .series as, .list bs
  | .series as, .series bs => sameItems as bs
  | .map as, .map bs => as.length == bs.length && sameEntries as bs
  | a, b => sameLeaf a b

def sameItems : List Value → List Value → Bool
  | [], [] => true
  | a :: as, b :: bs => same a b && sameItems as bs
  | _, _ => false

/-- Whether every entry of the first map is in the second. -/
def sameEntries : List (Value × Value) → List (Value × Value) → Bool
  | [], _ => true
  | (key, value) :: rest, others =>
    (others.any fun (other, found) => sameLeaf key other && same value found)
      && sameEntries rest others

end

/-- Place of a kind in the order of kinds. -/
def rank : Value → Nat
  | .undefined _ => 0
  | .none => 1
  | .bool _ => 2
  | .int _ | .float _ => 3
  | .str _ => 4
  | .list _ => 6
  | .map _ => 7
  | .series _ => 8
  | .function _ | .routine .. | .loop .. => 9

/-- Order of values that are no lists. -/
def compareLeaf (a b : Value) : Ordering :=
  match a, b with
  | .str s, .str t => compare s t
  | _, _ =>
    match a.pair? b with
    | some (.ints i j) => compare i j
    | some (.floats x y) => if x < y then .lt else if y < x then .gt else .eq
    | Option.none => compare a.rank b.rank

mutual

/-- Order of values: numbers by value, strings by code points, lists by their first
    difference, and different kinds by kind. -/
def order : Value → Value → Ordering
  | .list as, .list bs | .series as, .series bs => orderItems as bs
  | a, b => compareLeaf a b

def orderItems : List Value → List Value → Ordering
  | [], [] => .eq
  | [], _ :: _ => .lt
  | _ :: _, [] => .gt
  | a :: as, b :: bs => (order a b).then (orderItems as bs)

end

/-- The entry of a map under a key. -/
def lookup? (entries : List (Value × Value)) (key : Value) : Option Value :=
  (entries.find? fun (other, _) => sameLeaf key other).map (·.2)

/-- Add an entry at the end, or replace the value under a key that is there. -/
def insertEntry (entries : List (Value × Value)) (key value : Value) : List (Value × Value) :=
  if entries.any fun (other, _) => sameLeaf key other then
    entries.map fun (other, old) => if sameLeaf key other then (other, value) else (other, old)
  else entries ++ [(key, value)]

/-- A map with string keys. -/
def record (fields : List (String × Value)) : Value :=
  .map (fields.map fun (name, value) => (.str name, value))

mutual

/-- A JSON value as a template value. -/
def ofJson : Json → Value
  | .null => .none
  | .bool b => .bool b
  | .int i => .int i
  | .float x => .float x
  | .str s => .str s
  | .arr items => .list (ofJsonItems items)
  | .obj fields => .map (ofJsonFields fields)

def ofJsonItems : List Json → List Value
  | [] => []
  | item :: rest => ofJson item :: ofJsonItems rest

def ofJsonFields : List (String × Json) → List (Value × Value)
  | [] => []
  | (name, value) :: rest => (.str name, ofJson value) :: ofJsonFields rest

end

end Value

end ClientGen.Template
