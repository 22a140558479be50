import ClientGen.Decimal.Digits
import ClientGen.Template.Error
import ClientGen.Template.Value

/-! # Operators on template values

Whole numbers have 128 bits and fail when they overflow. A truth value counts as one or
zero. A quotient is always a floating-point number; floor division and remainder round so
that the remainder is not negative.
-/

namespace ClientGen.Template

namespace Operator

/-- The operator as messages name it. -/
def mark : Operator → String
  | .add => "+"
  | .subtract => "-"
  | .multiply => "*"
  | .divide => "/"
  | .floorDivide => "//"
  | .remainder => "%"
  | .power => "**"
  | .join => "~"
  | .equal => "=="
  | .different => "!="
  | .less => "<"
  | .atMost => "<="
  | .greater => ">"
  | .atLeast => ">="
  | .element => "in"

/-- Failure on operands of kinds that the operator does not take. -/
def refuse (operator : Operator) (a b : Value) : Except Error Value :=
  .error (.invalid ("tried to use " ++ operator.mark ++ " operator on unsupported types "
    ++ a.kind ++ " and " ++ b.kind))

/-- Failure on operands for which there is no result. -/
def giveUp (operator : Operator) (a b : Value) : Except Error Value :=
  .error (.invalid ("unable to calculate " ++ a.text ++ " " ++ operator.mark ++ " " ++ b.text))

/-- A whole number, if there is one and it is in range. -/
def whole (operator : Operator) (a b : Value) : Option Int → Except Error Value
  | some i =>
    if Value.minWhole ≤ i && i ≤ Value.maxWhole then .ok (.int i) else operator.giveUp a b
  | none => operator.giveUp a b

/-- The power of a whole number. A base other than 0, 1 and -1 overflows before its exponent
    is out of the range that is computed. -/
def wholePower (base exponent : Int) : Option Int :=
  if exponent < 0 || 0x100000000 ≤ exponent then none
  else if base.natAbs ≤ 1 then
    some (if exponent = 0 then 1 else if exponent % 2 = 0 then base * base else base)
  else if 128 ≤ exponent then none
  else some (base.pow exponent.toNat)

/-- Apply an operator to two whole numbers, where it has a result. -/
def onWholes (operator : Operator) (a b : Int) : Option Int :=
  match operator with
  | .add => some (a + b)
  | .subtract => some (a - b)
  | .multiply => some (a * b)
  | .floorDivide => if b = 0 then none else some (a / b)
  | .remainder => if b = 0 then none else some (a % b)
  | .power => wholePower a b
  | _ => none

end Operator

/-- A floating-point number cut off toward zero. -/
def truncate (x : Float) : Float :=
  if x < 0.0 then x.ceil else x.floor

/-- The remainder of a division toward zero, with the sign of the dividend and without
    rounding. -/
def truncatedRemainder (x y : Float) : Float :=
  match Decimal.parts x, Decimal.parts y with
  | .finite negative a, .finite _ b =>
    let exponent := min a.exponent b.exponent
    let scaled (n : Decimal.Binary) := n.mantissa * Nat.pow 2 (n.exponent - exponent).toNat
    let rest := scaled a % scaled b
    let excess := rest.log2 - 60
    let size := (Float.ofNat (rest >>> excess)).scaleB (exponent + excess)
    if negative then -size else size
  | .finite _ _, .infinite _ => x
  | .zero _, .finite _ _ | .zero _, .infinite _ => x
  | _, _ => 0.0 / 0.0

/-- The quotient of two floating-point numbers, rounded so that the remainder is not
    negative. -/
def floorQuotient (x y : Float) : Float :=
  let quotient := truncate (x / y)
  if truncatedRemainder x y < 0.0 then (if 0.0 < y then quotient - 1.0 else quotient + 1.0)
  else quotient

/-- Apply an operator to two floating-point numbers. -/
def Operator.onFloats (operator : Operator) (x y : Float) : Float :=
  match operator with
  | .add => x + y
  | .subtract => x - y
  | .multiply => x * y
  | .divide => x / y
  | .floorDivide => floorQuotient x y
  | .remainder => truncatedRemainder x y
  | .power => x.pow y
  | _ => 0.0

namespace Value

/-- Arithmetic on two numbers. -/
def compute (operator : Operator) (a b : Value) : Except Error Value :=
  match a.pair? b with
  | some (.ints i j) => operator.whole a b (operator.onWholes i j)
  | some (.floats x y) => .ok (.float (operator.onFloats x y))
  | Option.none => operator.refuse a b

/-- A count of repetitions. -/
def count? (v : Value) : Option Nat :=
  match v.int? with
  | some i => if 0 ≤ i then some i.toNat else Option.none
  | Option.none => Option.none

/-- A text several times in a row. -/
def repeatText (s : String) (n : Value) : Except Error Value :=
  match n.count? with
  | some n => .ok (.str (String.join (List.replicate n s)))
  | Option.none => .error (.invalid "strings can only be multiplied with integers")

/-- The items of a list several times in a row. -/
def repeatItems (items : List Value) (n : Value) : Except Error Value :=
  match n.count? with
  | some n => .ok (.series (List.replicate n items).flatten)
  | Option.none =>
    .error (.invalid "sequences and iterables can only be multiplied with integers")

def add (a b : Value) : Except Error Value :=
  match a, b with
  | .str s, .str t => .ok (.str (s ++ t))
  | .list as, .list bs | .list as, .series bs | .series as, .list bs
  | .series as, .series bs => .ok (.series (as ++ bs))
  | a, b => compute .add a b

def multiply (a b : Value) : Except Error Value :=
  match a, b with
  | .str s, n => repeatText s n
  | n, .str s => repeatText s n
  | .list items, n | .series items, n => repeatItems items n
  | n, .list items | n, .series items => repeatItems items n
  | a, b => compute .multiply a b

def divide (a b : Value) : Except Error Value :=
  match a.float?, b.float? with
  | some x, some y => .ok (.float (x / y))
  | _, _ => Operator.divide.refuse a b

def negate : Value → Except Error Value
  | .float x => .ok (.float (-x))
  | .int i =>
    if i ≤ maxWhole && minWhole < i then .ok (.int (-i)) else .error (.invalid "overflow")
  | _ => .error { kind := .invalidOperation }

/-- Whether `part` occurs in `cs`. -/
def occursIn (part : List Char) : List Char → Bool
  | [] => part.isEmpty
  | c :: rest => part.isPrefixOf (c :: rest) || occursIn part rest

/-- Whether a value is an element of a list, a key of a map or a part of a text. -/
def isElement (a container : Value) : Except Error Bool :=
  match container with
  | .undefined false => .error .undefinedValue
  | .undefined true => .ok false
  | .str s =>
    let part := match a with
      | .str t => t
      | a => a.text
    .ok (occursIn part.toList s.toList)
  | .list items | .series items => .ok (items.any (same · a))
  | .map entries => .ok (lookup? entries a).isSome
  | .function _ | .routine .. | .loop .. => .ok false
  | _ => .error (.invalid "cannot perform a containment check on this value")

/-- Two operands, both of which are defined. -/
def whenDefined (a b : Value) (result : Value) : Except Error Value :=
  if a.isUndefined || b.isUndefined then .error .undefinedValue else .ok result

end Value

/-- Apply an operator. -/
def Operator.apply (operator : Operator) (a b : Value) : Except Error Value :=
  match operator with
  | .add => a.add b
  | .multiply => a.multiply b
  | .divide => a.divide b
  | .subtract | .floorDivide | .remainder | .power => Value.compute operator a b
  | .join => a.whenDefined b (.str (a.text ++ b.text))
  | .equal => a.whenDefined b (.bool (a.same b))
  | .different => a.whenDefined b (.bool !a.same b)
  | .less => a.whenDefined b (.bool (a.order b == .lt))
  | .atMost => a.whenDefined b (.bool (a.order b != .gt))
  | .greater => a.whenDefined b (.bool (a.order b == .gt))
  | .atLeast => a.whenDefined b (.bool (a.order b != .lt))
  | .element => (a.isElement b).map .bool

end ClientGen.Template
