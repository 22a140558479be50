import ClientGen.Proofs.Template.Running
import ClientGen.Target.Context

/-! # Rendering with an environment

The shapes that templates of sources are made of, and what each of them writes: parts of
records, helper functions applied to them, loops over the items of a part, and branches on a
part that may be absent. What a template writes is derived from these statement by statement.
-/

namespace ClientGen.Template

/-- The part of the record that `owner` is bound to. -/
abbrev Expr.partOf (line : Nat) (owner name : String) : Expr :=
  .attribute line (.name owner) name

/-- A function of one argument. -/
abbrev Expr.applied (line : Nat) (function : String) (argument : Expr) : Expr :=
  .call line function [(none, argument)]

/-- Print a part of a record. -/
abbrev Stmt.part (line : Nat) (owner name : String) : Stmt :=
  .print line (.partOf line owner name)

/-- Print what a function makes of a part of a record. -/
abbrev Stmt.helper (line : Nat) (function owner name : String) : Stmt :=
  .print line (.applied line function (.partOf line owner name))

/-- Print one of two texts. -/
abbrev Stmt.pick (line : Nat) (test : Expr) (yes no : String) : Stmt :=
  .print line (.choice line test (.literal (.str yes)) (some (.literal (.str no))))

/-- A loop over the items of a part of a record. -/
abbrev Stmt.forPart (line : Nat) (name owner part : String) (body otherwise : List Stmt) : Stmt :=
  .each line (.name name) (.partOf line owner part) none body otherwise

/-- A branch on a part of a record. -/
abbrev Stmt.ifPart (line : Nat) (owner name : String) (yes no : List Stmt) : Stmt :=
  .branch line (.partOf line owner name) yes no

/-- The text of an optional part, unless it is absent or empty. -/
def stated (text : Option String) : Option String :=
  text.filter fun s => !s.isEmpty

theorem lookup?_record (fields : List (String × Value)) (name : String) :
    Value.lookup? (fields.map fun (name, value) => (.str name, value)) (.str name)
      = fields.lookup name := by
  induction fields with
  | nil => rfl
  | cons field rest ih =>
      obtain ⟨other, value⟩ := field
      simp only [Value.lookup?, List.map_cons, List.find?_cons, Value.sameLeaf,
        List.lookup_cons] at ih ⊢
      cases name == other with
      | true => rfl
      | false => exact ih

@[simp] theorem argumentText_str (s : String) : (Value.str s).argumentText = s := rfl

theorem holds_optionValue (text : Option String) :
    (optionValue text).holds = .ok (stated text).isSome := by
  cases text with
  | none => rfl
  | some s =>
      cases empty : s.isEmpty with
      | true => simp [optionValue, Value.holds, Value.isTrue, stated, empty]
      | false => simp [optionValue, Value.holds, Value.isTrue, stated, empty]

theorem stated_eq_some {text : Option String} {s : String} (h : stated text = some s) :
    text = some s :=
  (Option.filter_eq_some_iff.mp h).1

theorem part_record {fields : List (String × Value)} {name : String} {v : Value}
    (entry : fields.lookup name = some v) : (Value.record fields).part (.str name) = .ok v := by
  simp only [Value.record, Value.part, Value.part?, lookup?_record, entry]

section Setting

variable {env : Environment} {template : String} {fuel : Nat} {scope : Scope}

theorem setting_constant? : (env.setting template fuel).constant? = env.constant? := by
  cases fuel <;> rfl

theorem setting_function? : (env.setting template fuel).function? = env.function? := by
  cases fuel <;> rfl

theorem callName_eq {name : String} {f : Passed → Except Error Value}
    (bound : env.globals.lookup name = some (.function f)) (free : scope.lookup? name = none)
    (passed : Passed) : (env.setting template fuel).callName scope name passed = f passed := by
  simp only [Setting.callName, Setting.lookup?, free, setting_constant?, Environment.constant?,
    bound, Setting.callValue, setting_function?, Environment.function?]

namespace Yields

theorem part {s : Setting} {line : Nat} {owner name : String}
    {fields : List (String × Value)} {v : Value}
    (bound : scope.lookup? owner = some (.record fields)) (entry : fields.lookup name = some v) :
    Yields s scope (.partOf line owner name) v :=
  .attribute (.name (by rw [Setting.lookup?, bound])) (part_record entry)

theorem given {s : Setting} {line : Nat} {owner name : String} {fields : List (String × Value)}
    {text : Option String} {x : String} (bound : scope.lookup? owner = some (.record fields))
    (entry : fields.lookup name = some (optionValue text)) (given : text = some x) :
    Yields s scope (.partOf line owner name) (.str x) := by
  subst given
  exact .part bound entry

theorem last {s : Setting} {line : Nat} {loop : Value} {b : Bool}
    (bound : scope.lookup? "loop" = some loop) (known : loop.part (.str "last") = .ok (.bool b)) :
    Yields s scope (.partOf line "loop" "last") (.bool b) :=
  .attribute (.name (by rw [Setting.lookup?, bound])) known

theorem negated {s : Setting} {line : Nat} {e : Expr} {b : Bool}
    (value : Yields s scope e (.bool b)) : Yields s scope (.not line e) (.bool !b) :=
  .not value rfl

theorem pick {s : Setting} {line : Nat} {test : Expr} {yes no : String} {b : Bool}
    (value : Yields s scope test (.bool b)) :
    Yields s scope (.choice line test (.literal (.str yes)) (some (.literal (.str no))))
      (.str (if b then yes else no)) := by
  refine .choice value rfl ?_
  cases b with
  | true => exact .literal _
  | false => exact .literal _

theorem bound {s : Setting} {name : String} {v : Value} (found : scope.lookup? name = some v) :
    Yields s scope (.name name) v :=
  .name (by rw [Setting.lookup?, found])

theorem constant {name : String} {v : Value}
    (found : env.globals.lookup name = some (.value v)) (free : scope.lookup? name = none) :
    Yields (env.setting template fuel) scope (.name name) v :=
  .name (by simp only [Setting.lookup?, free, setting_constant?, Environment.constant?, found])

theorem function {line : Nat} {name : String} {f : Passed → Except Error Value} {args : Args}
    {values : List (Option String × Value)} {v : Value}
    (bound : env.globals.lookup name = some (.function f)) (free : scope.lookup? name = none)
    (passed : YieldsAll (env.setting template fuel) scope args values)
    (result : f (Passed.ofArgs values) = .ok v) :
    Yields (env.setting template fuel) scope (.call line name args) v :=
  .call passed (by rw [callName_eq bound free, result])

theorem joined {s : Setting} {line : Nat} {a b : Expr} {x y : String}
    (left : Yields s scope a (.str x)) (right : Yields s scope b (.str y)) :
    Yields s scope (.binary line .join a b) (.str (x ++ y)) :=
  .binary left right rfl

theorem helper {line : Nat} {name : String} {f : String → String} {e : Expr} {x : String}
    (bound : env.globals.lookup name = some (.function (Filters.onText f)))
    (free : scope.lookup? name = none)
    (argument : Yields (env.setting template fuel) scope e (.str x)) :
    Yields (env.setting template fuel) scope (.applied line name e) (.str (f x)) :=
  .function bound free (.cons argument .nil) rfl

theorem quoted {line : Nat} {quoting : Text.Quoting} {e : Expr} {v : Value}
    (bound : env.globals.lookup "literal" = some (.function (Filters.onValue fun value =>
      .ok (.str (Environment.literal quoting value)))))
    (free : scope.lookup? "literal" = none)
    (argument : Yields (env.setting template fuel) scope e v) :
    Yields (env.setting template fuel) scope (.applied line "literal" e)
      (.str (Environment.literal quoting v)) :=
  .function bound free (.cons argument .nil) rfl

theorem docComment {line : Nat} {e : Expr} {text marker : String}
    (bound : env.globals.lookup "docComment" = some (.function Environment.docComment))
    (free : scope.lookup? "docComment" = none)
    (argument : Yields (env.setting template fuel) scope e (.str text)) :
    Yields (env.setting template fuel) scope
      (.call line "docComment" [(none, e), (none, .literal (.str marker))])
      (.str (Naming.docComment text marker)) :=
  .function bound free (.cons argument (.cons (.literal _) .nil)) rfl

end Yields

end Setting

section Statements

variable {s : Setting} {scope : Scope} {rest : List Stmt} {more : String}

namespace Writes

theorem append {stmts : List Stmt} {t : String} (first : Writes s scope stmts t)
    (others : Writes s scope rest more) : Writes s scope (stmts ++ rest) (t ++ more) := by
  induction first with
  | nil => simpa using others
  | text _ ih =>
      rw [String.append_assoc]
      exact .text (ih others)
  | print value shown _ ih =>
      rw [String.append_assoc]
      exact .print value shown (ih others)
  | branch test holds branch _ _ ih =>
      rw [String.append_assoc]
      exact .branch test holds branch (ih others)
  | each source fresh body empty _ _ _ ih =>
      rw [String.append_assoc]
      exact .each source fresh body empty (ih others)

theorem andThen {stmt : Stmt} {t : String} (first : Writes s scope [stmt] t)
    (others : Writes s scope rest more) : Writes s scope (stmt :: rest) (t ++ more) :=
  first.append others

theorem shown {line : Nat} {e : Expr} {x : String} (value : Yields s scope e (.str x))
    (others : Writes s scope rest more) : Writes s scope (.print line e :: rest) (x ++ more) :=
  .print value rfl others

variable {line : Nat} {owner part : String} {fields : List (String × Value)}

section Loops

variable {α : Type} {xs : List α} {toValue : α → Value} {name : String} {body : List Stmt}

theorem forPart {text : Bool → α → String} {otherwise : List Stmt} {other : String}
    (bound : scope.lookup? owner = some (.record fields))
    (entry : fields.lookup part = some (.list (xs.map toValue)))
    (fresh : (name == "loop") = false)
    (round : ∀ x loop last, loop.part (.str "last") = .ok (.bool last) →
      Writes s (roundFrame loop name (toValue x) :: scope) body (text last x))
    (empty : Writes s scope otherwise other) (others : Writes s scope rest more) :
    Writes s scope (.forPart line name owner part body otherwise :: rest)
      ((if xs.isEmpty then other else joinRounds text xs) ++ more) :=
  .each (.part bound entry) fresh round empty others

theorem forEach {text : α → String} (bound : scope.lookup? owner = some (.record fields))
    (entry : fields.lookup part = some (.list (xs.map toValue)))
    (fresh : (name == "loop") = false)
    (round : ∀ x loop, Writes s (roundFrame loop name (toValue x) :: scope) body (text x))
    (others : Writes s scope rest more) :
    Writes s scope (.forPart line name owner part body [] :: rest)
      (String.join (xs.map text) ++ more) := by
  rw [← joinRounds_eq_join, ← ite_joinRounds]
  exact forPart bound entry fresh (fun x loop _ _ => round x loop) .nil others

end Loops

variable {yes no : List Stmt} {t u : String}

theorem ifHolds {b : Bool} (bound : scope.lookup? owner = some (.record fields))
    (entry : fields.lookup part = some (.bool b)) (ifTrue : Writes s scope yes t)
    (ifFalse : Writes s scope no u) (others : Writes s scope rest more) :
    Writes s scope (.ifPart line owner part yes no :: rest) ((if b then t else u) ++ more) := by
  refine .branch (b := b) (.part bound entry) rfl ?_ others
  cases b with
  | true => exact ifTrue
  | false => exact ifFalse

theorem ifStated {text : Option String} {f : String → String}
    (bound : scope.lookup? owner = some (.record fields))
    (entry : fields.lookup part = some (optionValue text))
    (ifGiven : ∀ x, text = some x → Writes s scope yes (f x)) (ifNot : Writes s scope no u)
    (others : Writes s scope rest more) :
    Writes s scope (.ifPart line owner part yes no :: rest)
      (((stated text).map f).getD u ++ more) := by
  refine .branch (.part bound entry) (holds_optionValue text) ?_ others
  cases given : stated text with
  | none => exact ifNot
  | some x => exact ifGiven x (stated_eq_some given)

end Writes

end Statements

section Render

variable {env : Environment} {data : Value} {t : String}

theorem run_eq {name : String} {stmts : List Stmt}
    (h : Writes (env.setting name Environment.maxDepth) [Environment.frameOf data] stmts t) :
    env.run name stmts data = .ok t := by
  rw [Environment.run, h.runAll_eq]
  rfl

theorem render_eq {name : String} {stmts : List Stmt}
    (stored : env.templates.lookup name = some stmts)
    (h : Writes (env.setting name Environment.maxDepth) [Environment.frameOf data] stmts t) :
    env.render name data = .ok t := by
  rw [Environment.render, stored]
  exact run_eq h

theorem renderText_eq {source : String} {stmts : List Stmt}
    (read : Stmt.readAll Environment.adHoc source = .ok stmts)
    (h : Writes (env.setting Environment.adHoc Environment.maxDepth)
      [Environment.frameOf data] stmts t) :
    env.renderText source data = .ok t := by
  rw [Environment.renderText, read, ok_bind]
  exact run_eq h

end Render

end ClientGen.Template
