import ClientGen.Template.Error
import ClientGen.Template.Value

/-! # Parts of template values

Attributes, subscripts, slices and the items that a loop visits. Asking an undefined value
for a part is an error; a part that is missing is itself undefined.
-/

namespace ClientGen.Template.Value

/-- Characters of a text, each as a text. -/
def characters (s : String) : List Value :=
  s.toList.map fun c => .str c.toString

/-- The place in a list of `length` items that an index names; negative ones count from the
    end. -/
def position? (index : Value) (length : Nat) : Option Nat :=
  match index.int? with
  | some i =>
    if 0 ≤ i then some i.toNat
    else if i.natAbs ≤ length then some (length - i.natAbs)
    else Option.none
  | Option.none => Option.none

/-- What a loop knows about itself. -/
def loopAttribute? (index length : Nat) (previous next : Value) : String → Option Value
  | "index" => some (.int (index + 1))
  | "index0" => some (.int index)
  | "revindex" => some (.int (length - index))
  | "revindex0" => some (.int (length - index - 1))
  | "first" => some (.bool (index == 0))
  | "last" => some (.bool (index + 1 == length))
  | "length" => some (.int length)
  | "depth" => some (.int 1)
  | "depth0" => some (.int 0)
  | "previtem" => some previous
  | "nextitem" => some next
  | _ => Option.none

/-- A part of a value, if the value has it. -/
def part? (value key : Value) : Option Value :=
  match value with
  | .map entries => lookup? entries key
  | .list items | .series items => (key.position? items.length).bind (items[·]?)
  | .str s => (key.position? s.length).bind ((characters s)[·]?)
  | .loop index length previous next _ =>
    match key with
    | .str name => loopAttribute? index length previous next name
    | _ => Option.none
  | .routine name params _ _ =>
    match key with
    | .str "name" => some (.str name)
    | .str "arguments" => some (.list (params.map fun (param, _) => .str param))
    | _ => Option.none
  | _ => Option.none

/-- A part of a value that is defined. -/
def part (value key : Value) : Except Error Value :=
  match value.part? key with
  | some found => .ok found
  | Option.none => if value.isUndefined then .error .undefinedValue else .ok missing

/-- An end of a slice: none, or a whole number. -/
def bound? (value : Value) : Except Error (Option Int) :=
  match value with
  | .none => .ok Option.none
  | value =>
    match value.int? with
    | some i => .ok (some i)
    | Option.none => .error (.invalid ("cannot convert " ++ value.kind ++ " to i64"))

/-- An end of a slice as a place between `low` and `high`; negative ones count from
    `length`. -/
def clamp (i low high : Int) (length : Nat) : Int :=
  max low (min high (if i < 0 then i + length else i))

/-- Every `step`-th item, the first one included. -/
def every (step : Nat) : Nat → List α → List α
  | _, [] => []
  | 0, x :: rest => x :: every step (step - 1) rest
  | skip + 1, _ :: rest => every step skip rest

/-- Items from `start` up to but without `stop`, in steps. With a negative step the items are
    taken backwards. -/
def sliceItems (items : List α) (start stop : Option Int) (step : Int) : List α :=
  let n : Int := items.length
  if 0 < step then
    let first := (start.map (clamp · 0 n items.length)).getD 0
    let last := (stop.map (clamp · 0 n items.length)).getD n
    every step.toNat 0 ((items.take last.toNat).drop first.toNat)
  else
    let first := (start.map (clamp · (-1) (n - 1) items.length)).getD (n - 1)
    let last := (stop.map (clamp · (-1) (n - 1) items.length)).getD (-1)
    every (-step).toNat 0 ((items.take (first + 1).toNat).drop (last + 1).toNat).reverse

/-- Part of a list or a text. -/
def slice (value start stop step : Value) : Except Error Value := do
  let start ← start.bound?
  let stop ← stop.bound?
  let step := (← step.bound?).getD 1
  if step = 0 then .error (.invalid "cannot slice by step size of 0")
  else
    match value with
    | .str s => .ok (.str (String.ofList (sliceItems s.toList start stop step)))
    | .list items | .series items => .ok (.series (sliceItems items start stop step))
    | .undefined _ | .none => .ok (.list [])
    | value => .error (.invalid ("value of type " ++ value.kind ++ " cannot be sliced"))

/-- The items of a value, if it has items: those of a list, the keys of a map, the characters
    of a text, and none for an absent value. -/
def items? : Value → Option (List Value)
  | .list items | .series items => some items
  | .map entries => some (entries.map (·.1))
  | .str s => some (characters s)
  | .none | .undefined _ => some []
  | _ => Option.none

/-- The items that a loop visits. -/
def visited (value : Value) : Except Error (List Value) :=
  match value with
  | .undefined false => .error .undefinedValue
  | value =>
    match value.items? with
    | some items => .ok items
    | Option.none => .error (.invalid (value.kind ++ " is not iterable"))

/-- Whether a condition holds of a value that is defined. -/
def holds (value : Value) : Except Error Bool :=
  match value with
  | .undefined false => .error .undefinedValue
  | value => .ok value.isTrue

end ClientGen.Template.Value
