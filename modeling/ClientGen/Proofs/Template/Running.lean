import ClientGen.Template.Environment

/-! # Running template trees

A relation between a tree and the text it writes, for trees that neither assign nor define
anything: such a tree leaves the scopes as it finds them, and its text is put together from the
texts of its parts. Every derivation is a run. A loop over a list writes one text for each
item, which depends on the item and on whether the round is the last one.
-/

namespace ClientGen.Template

mutual

/-- The expression has the value, and asks no loop to remember anything. -/
inductive Yields (s : Setting) : Scope → Expr → Value → Prop where
  | literal {scope} (value : Literal) : Yields s scope (.literal value) value.value
  | name {scope id v} : s.lookup? scope id = some v → Yields s scope (.name id) v
  | «attribute» {scope line e name v w} :
    Yields s scope e v → v.part (.str name) = .ok w → Yields s scope (.attribute line e name) w
  | not {scope line e v b} :
    Yields s scope e v → v.holds = .ok b → Yields s scope (.not line e) (.bool !b)
  | choice {scope line test yes no v b w} :
    Yields s scope test v → v.holds = .ok b → Yields s scope (if b then yes else no) w →
    Yields s scope (.choice line test yes (some no)) w
  | binary {scope line operator a b v w u} :
    Yields s scope a v → Yields s scope b w → operator.apply v w = .ok u →
    Yields s scope (.binary line operator a b) u
  | call {scope line function args values v} :
    YieldsAll s scope args values →
    s.callName scope function (Passed.ofArgs values) = .ok v →
    Yields s scope (.call line function args) v
  | filter {scope line e name args v values w} :
    Yields s scope e v → YieldsAll s scope args values →
    Filters.apply name (Passed.ofArgs ((none, v) :: values)) = .ok w →
    Yields s scope (.filter line e name args) w

/-- The arguments have the values. -/
inductive YieldsAll (s : Setting) : Scope → Args → List (Option String × Value) → Prop where
  | nil {scope} : YieldsAll s scope [] []
  | cons {scope name e rest v values} :
    Yields s scope e v → YieldsAll s scope rest values →
    YieldsAll s scope ((name, e) :: rest) ((name, v) :: values)

end

/-- The frame of a loop in one of its rounds. -/
def roundFrame (loop : Value) (name : String) (item : Value) : Frame :=
  [("loop", loop), (name, item)]

/-- The texts of the rounds of a loop over a list; each round knows whether it is the last. -/
def joinRounds {α : Type} (text : Bool → α → String) : List α → String
  | [] => ""
  | x :: rest => text rest.isEmpty x ++ joinRounds text rest

/-- The statements write the text and leave the scopes as they are. -/
inductive Writes (s : Setting) : Scope → List Stmt → String → Prop where
  | nil {scope} : Writes s scope [] ""
  | text {scope t rest more} :
    Writes s scope rest more → Writes s scope (.text t :: rest) (t ++ more)
  | print {scope line e v t rest more} :
    Yields s scope e v → printed v = .ok t → Writes s scope rest more →
    Writes s scope (.print line e :: rest) (t ++ more)
  | branch {scope line test yes no v b t rest more} :
    Yields s scope test v → v.holds = .ok b → Writes s scope (if b then yes else no) t →
    Writes s scope rest more → Writes s scope (.branch line test yes no :: rest) (t ++ more)
  /-- A body is run for any loop that tells it whether the round is the last one. -/
  | each {scope line name source body otherwise other rest more} {α : Type} {xs : List α}
      {toValue : α → Value} {text : Bool → α → String} :
    Yields s scope source (.list (xs.map toValue)) → (name == "loop") = false →
    (∀ x loop last, loop.part (.str "last") = .ok (.bool last) →
      Writes s (roundFrame loop name (toValue x) :: scope) body (text last x)) →
    Writes s scope otherwise other → Writes s scope rest more →
    Writes s scope (.each line (.name name) source none body otherwise :: rest)
      ((if xs.isEmpty then other else joinRounds text xs) ++ more)

variable {s : Setting} {scope : Scope}

@[simp] theorem ok_bind {ε α β : Type} (a : α) (f : α → Except ε β) :
    ((Except.ok a : Except ε α) >>= f) = f a := rfl

@[simp] theorem place_ok {α : Type} (line : Nat) (a : α) :
    s.place line (.ok a : Except Error α) = .ok a := rfl

mutual

theorem Yields.eval_eq {e : Expr} {v : Value} (h : Yields s scope e v) :
    e.eval s scope = .ok v := by
  cases h with
  | literal value => rw [Expr.eval]
  | name bound => rw [Expr.eval, bound, Option.getD_some]
  | «attribute» subject part => rw [Expr.eval, subject.eval_eq, ok_bind, part, place_ok]
  | not operand holds => rw [Expr.eval, operand.eval_eq, ok_bind, holds]; rfl
  | @choice _ _ _ _ _ b _ test holds branch =>
      rw [Expr.eval, test.eval_eq, ok_bind, holds, place_ok, ok_bind]
      cases b with
      | true => exact branch.eval_eq
      | false => exact branch.eval_eq
  | binary left right applied =>
      rw [Expr.eval, left.eval_eq, ok_bind, right.eval_eq, ok_bind, applied, place_ok]
  | call args called =>
      rw [Expr.eval, args.evalArgs_eq, ok_bind]
      simp only [called, place_ok]
  | filter subject args applied =>
      rw [Expr.eval, subject.eval_eq, ok_bind, args.evalArgs_eq, ok_bind]
      simp only [applied, place_ok]

theorem YieldsAll.evalArgs_eq {args : Args} {values : List (Option String × Value)}
    (h : YieldsAll s scope args values) : evalArgs s scope args = .ok values := by
  cases h with
  | nil => rw [evalArgs]
  | cons value rest => rw [evalArgs, value.eval_eq, ok_bind, rest.evalArgs_eq]; rfl

end

theorem Yields.compared?_eq {e : Expr} {v : Value} (h : Yields s scope e v) :
    e.compared? = none := by
  cases h with
  | literal | name | «attribute» | call => rfl
  | not operand => exact operand.compared?_eq
  | choice test => exact test.compared?_eq
  | binary left => exact left.compared?_eq
  | filter subject => exact subject.compared?_eq

/-- The scope of a loop before a round: empty, or as the round before has left it. -/
inductive Ready (name : String) : Frame → Prop where
  | first : Ready name []
  | later (index length : Nat) (previous next item : Value) :
    Ready name (roundFrame (.loop index length previous next none) name item)

namespace Ready

variable {name : String} {frame : Frame}

theorem resumed_eq (h : Ready name frame) (index length : Nat) (previous next : Value) :
    resumed frame (.loop index length previous next none)
      = .loop index length previous next none := by
  cases h with
  | first => rfl
  | later => simp [roundFrame, resumed]

/-- Beginning a round binds the loop and the item, in this order. -/
theorem bind_bind (h : Ready name frame) (fresh : (name == "loop") = false) (loop item : Value) :
    (frame.bind "loop" loop).bind name item = roundFrame loop name item := by
  have different : name ≠ "loop" := by simpa using fresh
  cases h <;> simp [roundFrame, Frame.bind, different]

end Ready

/-- One round of a loop: what is written so far and the scope of the loop, before and after. -/
def playRound (s : Setting) (line : Nat) (scope : Scope) (target : Target) (body : List Stmt)
    (state : String × Frame) (visit : Value × Value) : Except Error (String × Frame) := do
  let loop := resumed state.2 visit.2
  let inner ← target.assign s line (state.2.bind "loop" loop :: scope) visit.1
  let (added, inner) ← runAll s inner body
  return (state.1 ++ added, inner.headD [])

section Rounds

variable {α : Type} {name : String} {body : List Stmt} {toValue : α → Value}
  {text : Bool → α → String}

/-- Every round of the loop writes its text and leaves its scope as it is. -/
def RunsRounds (s : Setting) (scope : Scope) (name : String) (toValue : α → Value)
    (body : List Stmt) (text : Bool → α → String) : Prop :=
  ∀ (x : α) (index length : Nat) (previous next : Value),
    let frame := roundFrame (.loop index length previous next none) name (toValue x)
    runAll s (frame :: scope) body = .ok (text (index + 1 == length) x, frame :: scope)

theorem playRound_eq (runs : RunsRounds s scope name toValue body text)
    (fresh : (name == "loop") = false) {frame : Frame} (ready : Ready name frame)
    (line index length : Nat) (previous next : Value) (x : α) (written : String) :
    playRound s line scope (.name name) body (written, frame)
        (toValue x, .loop index length previous next none)
      = .ok (written ++ text (index + 1 == length) x,
          roundFrame (.loop index length previous next none) name (toValue x)) := by
  simp only [playRound, ready.resumed_eq, Target.assign, Scope.bind, ready.bind_bind fresh,
    ok_bind, runs x index length previous next, List.headD_cons]
  rfl

theorem foldlM_rounds (runs : RunsRounds s scope name toValue body text)
    (fresh : (name == "loop") = false) (line length : Nat) (xs : List α) :
    ∀ (index : Nat) (previous : Value) (written : String) (frame : Frame),
      index + xs.length = length → Ready name frame →
      ∃ left, (rounds length index previous (xs.map toValue)).foldlM
          (playRound s line scope (.name name) body) (written, frame)
        = .ok (written ++ joinRounds text xs, left) := by
  induction xs with
  | nil =>
      intro index previous written frame _ _
      exact ⟨frame, by simp [rounds, joinRounds]; rfl⟩
  | cons x rest ih =>
      intro index previous written frame count ready
      -- a round that counts as the last one has nothing behind it
      have last : (index + 1 == length) = rest.isEmpty := by
        cases rest with
        | nil => simpa using count
        | cons y rest => simp at count ⊢; omega
      obtain ⟨left, hleft⟩ := ih (index + 1) (toValue x) (written ++ text rest.isEmpty x) _
        (by simp at count; omega)
        (.later index length previous ((rest.map toValue).headD .missing) (toValue x))
      refine ⟨left, ?_⟩
      rw [List.map_cons, rounds, List.foldlM_cons, playRound_eq runs fresh ready, ok_bind, last,
        hleft, joinRounds, String.append_assoc]

/-- A loop over a list writes the texts of its rounds, or its other branch if there are none. -/
theorem run_each (runs : RunsRounds s scope name toValue body text)
    (fresh : (name == "loop") = false) {source : Expr} {xs : List α}
    (value : source.eval s scope = .ok (.list (xs.map toValue))) {otherwise : List Stmt}
    {other : String} (empty : runAll s scope otherwise = .ok (other, scope)) (line : Nat) :
    (Stmt.each line (.name name) source none body otherwise).run s scope
      = .ok (if xs.isEmpty then other else joinRounds text xs, scope) := by
  cases xs with
  | nil => simp [Stmt.run, value, Value.visited, Value.items?, keepItems, empty]
  | cons x rest =>
      -- no round has been played yet, so the scope of the loop is empty
      obtain ⟨left, hleft⟩ := foldlM_rounds runs fresh line (rest.length + 1) (x :: rest) 0
        .missing "" [] (by simp) .first
      have played : (rounds ((x :: rest).map toValue).length 0 .missing
          ((x :: rest).map toValue)).foldlM (playRound s line scope (.name name) body) ("", [])
            = .ok (joinRounds text (x :: rest), left) := by
        simpa using hleft
      simp only [Stmt.run, value, ok_bind, Value.visited, Value.items?, place_ok, keepItems]
      rw [if_neg (by simp), if_neg (by simp)]
      exact congrArg (· >>= fun r : String × Frame => (pure (r.1, scope) : Except Error _)) played

end Rounds

theorem runAll_cons {stmt : Stmt} {rest : List Stmt} {text more : String}
    (first : stmt.run s scope = .ok (text, scope))
    (others : runAll s scope rest = .ok (more, scope)) :
    runAll s scope (stmt :: rest) = .ok (text ++ more, scope) := by
  rw [runAll, first, ok_bind]
  simp only [others, ok_bind]
  rfl

theorem Writes.runAll_eq {stmts : List Stmt} {t : String} (h : Writes s scope stmts t) :
    runAll s scope stmts = .ok (t, scope) := by
  induction h with
  | nil => rw [runAll]
  | text _ ih => exact runAll_cons (by rw [Stmt.run]) ih
  | print value shown _ ih =>
      refine runAll_cons ?_ ih
      rw [Stmt.run, value.eval_eq, ok_bind, shown, place_ok, ok_bind, scopeAfter,
        value.compared?_eq]
      rfl
  | @branch _ _ _ _ _ _ b _ _ _ test holds _ _ ihBranch ihRest =>
      refine runAll_cons ?_ ihRest
      rw [Stmt.run, test.eval_eq, ok_bind, holds, place_ok, ok_bind, scopeAfter,
        test.compared?_eq]
      cases b with
      | true => exact ihBranch
      | false => exact ihBranch
  | each source fresh _ _ _ ihRounds ihOther ihRest =>
      refine runAll_cons (run_each ?_ fresh source.eval_eq ihOther _) ihRest
      -- the loop of every round answers by its place whether it is the last one
      intro x index length previous next
      exact ihRounds x _ _ rfl

theorem Writes.of_eq {stmts : List Stmt} {t u : String} (h : Writes s scope stmts t)
    (same : t = u) : Writes s scope stmts u :=
  same ▸ h

section JoinRounds

variable {α : Type}

@[simp] theorem ite_joinRounds (text : Bool → α → String) (xs : List α) :
    (if xs.isEmpty then "" else joinRounds text xs) = joinRounds text xs := by
  cases xs <;> rfl

@[simp] theorem joinRounds_eq_join (text : α → String) (xs : List α) :
    joinRounds (fun _ => text) xs = String.join (xs.map text) := by
  induction xs with
  | nil => rfl
  | cons x rest ih => simp [joinRounds, ih]

/-- A separator behind all rounds but the last separates the texts. -/
theorem joinRounds_eq_intercalate (separator : String) (text : α → String) (xs : List α) :
    joinRounds (fun last x => text x ++ if last then "" else separator) xs
      = separator.intercalate (xs.map text) := by
  induction xs with
  | nil => rfl
  | cons x rest ih =>
      cases rest with
      | nil => simp [joinRounds]
      | cons y rest => simpa [joinRounds, String.append_assoc] using ih

end JoinRounds

end ClientGen.Template
