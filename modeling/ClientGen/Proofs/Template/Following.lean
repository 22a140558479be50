import ClientGen.Proofs.Template.Avoidance

/-! # Runs that follow each other

Two settings may differ in hidden names, and in what an include does. What mentions no hidden name
then runs alike in both: values, texts, scopes and errors are the same, and no value is a function
of a hidden name, unless an include fails in the first setting.
-/

namespace ClientGen.Template

variable {hidden : List String}

/-- The second result is the first one, and has the property, unless the first one is the failure
    of an include. -/
def Follows {α : Type} (P : α → Prop) (q r : Except Error α) : Prop :=
  (∃ e, q = .error e ∧ e.kind = .badInclude) ∨ (r = q ∧ Returns P q)

namespace Follows

variable {α β : Type} {P : α → Prop} {Q : β → Prop} {a : α} {q r : Except Error α}
  {f g : α → Except Error β}

theorem refl (h : Returns P q) : Follows P q q :=
  .inr ⟨rfl, h⟩

theorem ok (h : P a) : Follows P (.ok a) (.ok a) :=
  refl (.ok h)

theorem any : Follows (fun _ => True) q q :=
  refl fun _ _ => trivial

theorem error {e : Error} : Follows P (.error e) (.error e) :=
  refl .error

theorem bind (h : Follows P q r) (next : ∀ a, P a → Follows Q (f a) (g a)) :
    Follows Q (q >>= f) (r >>= g) := by
  obtain ⟨e, rfl, kind⟩ | ⟨rfl, returns⟩ := h
  · exact .inl ⟨e, rfl, kind⟩
  · cases r with
    | error e => exact error
    | ok a => exact next a (returns a rfl)

theorem map {g : α → β} (h : Follows P q r) (next : ∀ a, P a → Q (g a)) :
    Follows Q (q.map g) (r.map g) := by
  obtain ⟨e, rfl, kind⟩ | ⟨rfl, returns⟩ := h
  · exact .inl ⟨e, rfl, kind⟩
  · exact refl (returns.map next)

theorem foldlM {f g : β → α → Except Error β} {xs : List α} {b : β}
    (h : ∀ b, Q b → ∀ x ∈ xs, Follows Q (f b x) (g b x)) (start : Q b) :
    Follows Q (xs.foldlM f b) (xs.foldlM g b) := by
  induction xs generalizing b with
  | nil => exact ok start
  | cons x rest ih =>
      rw [List.foldlM_cons, List.foldlM_cons]
      exact (h b start x List.mem_cons_self).bind fun b next =>
        ih (fun b hb y mem => h b hb y (List.mem_cons_of_mem x mem)) next

theorem filterM {f g : α → Except Error Bool} {xs : List α} (all : ∀ x ∈ xs, P x)
    (h : ∀ x, P x → Follows (fun _ => True) (f x) (g x)) :
    Follows (fun kept => ∀ x ∈ kept, P x) (xs.filterM f) (xs.filterM g) := by
  have collected {xs acc : List α} (all : ∀ x ∈ xs, P x) (kept : ∀ x ∈ acc, P x) :
      Follows (fun kept => ∀ x ∈ kept, P x) (xs.filterAuxM f acc) (xs.filterAuxM g acc) := by
    induction xs generalizing acc with
    | nil => exact ok kept
    | cons x rest ih =>
        obtain ⟨first, others⟩ := List.forall_mem_cons.mp all
        refine (h x first).bind fun holds _ => ih others ?_
        cases holds with
        | false => exact kept
        | true => exact List.forall_mem_cons.mpr ⟨first, kept⟩
  exact (collected all (List.forall_mem_nil _)).bind fun kept h =>
    ok fun x mem => h x (List.mem_reverse.mp mem)

end Follows

/-- What the second setting refers to is what the first one does, as far as names that are not
    hidden go and no include fails in the first one. -/
structure Setting.Agree (hidden : List String) (p s : Setting) : Prop where
  template_eq : s.template = p.template
  constant?_eq {name : String} : name ∉ hidden → s.constant? name = p.constant? name
  constant?_avoids {name : String} {v : Value} :
    name ∉ hidden → p.constant? name = some v → v.Avoids hidden
  function?_eq {name : String} : name ∉ hidden → s.function? name = p.function? name
  function?_avoids {name : String} {f : Passed → Except Error Value} {passed : Passed} :
    name ∉ hidden → p.function? name = some f → passed.Avoids hidden →
    Returns (Value.Avoids hidden) (f passed)
  routine_follows {scope : Scope} {params : Params} {body : List Stmt} {passed : Passed} :
    Scope.Avoids hidden scope → hidden.Disjoint (paramNames params) →
    hidden.Disjoint (bodyNames body) → passed.Avoids hidden →
    Follows (Value.Avoids hidden) (p.routine scope params body passed)
      (s.routine scope params body passed)
  embed_follows {scope : Scope} {v : Value} {optional : Bool} :
    Scope.Avoids hidden scope →
    Follows (fun ran => Scope.Avoids hidden ran.2) (p.embed scope v optional)
      (s.embed scope v optional)

variable {p s : Setting} {scope : Scope}

section Settings

variable {value : Value} {name : String} {passed : Passed}

theorem Error.kind_located {e : Error} {line : Nat} : (e.located name line).kind = e.kind := by
  rw [Error.located]
  split <;> rfl

theorem Setting.Agree.place {α : Type} {P : α → Prop} {q r : Except Error α} {line : Nat}
    (h : p.Agree hidden s) (f : Follows P q r) :
    Follows P (p.place line q) (s.place line r) := by
  rw [Setting.place, Setting.place, h.template_eq]
  obtain ⟨e, rfl, kind⟩ | ⟨rfl, returns⟩ := f
  · exact .inl ⟨_, rfl, Error.kind_located.trans kind⟩
  · refine .refl ?_
    cases r with
    | error e => exact .error
    | ok a => exact .ok (returns a rfl)

theorem Setting.Agree.lookup? (h : p.Agree hidden s) (free : name ∉ hidden) :
    s.lookup? scope name = p.lookup? scope name := by
  rw [Setting.lookup?, Setting.lookup?, h.constant?_eq free]

theorem Setting.Agree.lookup?_avoids (h : p.Agree hidden s) (hscope : Scope.Avoids hidden scope)
    (free : name ∉ hidden) (found : p.lookup? scope name = some value) : value.Avoids hidden := by
  rw [Setting.lookup?] at found
  split at found
  · rename_i bound
    cases found
    exact Scope.avoids_lookup? hscope bound
  · exact h.constant?_avoids free found

theorem Setting.Agree.callValue (h : p.Agree hidden s) (hscope : Scope.Avoids hidden scope)
    (hvalue : value.Avoids hidden) (hpassed : passed.Avoids hidden) :
    Follows (Value.Avoids hidden) (p.callValue scope value passed)
      (s.callValue scope value passed) := by
  cases hvalue with
  | function free =>
      simp only [Setting.callValue, h.function?_eq free]
      split
      · rename_i f known
        exact .refl (h.function?_avoids free known hpassed)
      · exact .error
  | routine _ depth params body =>
      exact h.routine_follows (Scope.avoids_drop hscope) params body hpassed
  | undefined | none | bool | int | float | str | list | series | map | loop => exact .error

theorem Setting.Agree.callName (h : p.Agree hidden s) (hscope : Scope.Avoids hidden scope)
    (free : name ∉ hidden) (hpassed : passed.Avoids hidden) :
    Follows (Value.Avoids hidden) (p.callName scope name passed)
      (s.callName scope name passed) := by
  rw [Setting.callName, Setting.callName, h.lookup? free]
  split
  · rename_i callee found
    exact h.callValue hscope (h.lookup?_avoids hscope free found) hpassed
  · exact .error

theorem Setting.Agree.callMethod (h : p.Agree hidden s) (hscope : Scope.Avoids hidden scope)
    (hvalue : value.Avoids hidden) (hpassed : passed.Avoids hidden) :
    Follows (Value.Avoids hidden) (p.callMethod scope value name passed)
      (s.callMethod scope value name passed) := by
  rw [Setting.callMethod.eq_def, Setting.callMethod.eq_def]
  split
  · exact .ok (Filters.avoids_getD fun v found => Value.avoids_getElem? hpassed.values found)
  · exact .ok (.bool _)
  · exact .error
  · cases hvalue with
    | map keys values =>
        split
        · rename_i callee found
          exact h.callValue hscope (Value.avoids_lookup? values found) hpassed
        · exact .error
  · exact .error

theorem Literal.avoids_value {literal : Literal} : literal.value.Avoids hidden := by
  cases literal with
  | none => exact .none
  | bool b => exact .bool b
  | int n => exact .int n
  | float x => exact .float x
  | str s => exact .str s

theorem Passed.avoids_ofArgs {args : List (Option String × Value)}
    (h : ∀ arg ∈ args, arg.2.Avoids hidden) : (Passed.ofArgs args).Avoids hidden where
  values v mem := by
    obtain ⟨arg, there, same⟩ := List.mem_filterMap.mp mem
    dsimp only at same
    split at same
    · cases same
      exact h arg there
    · cases same
  named entry mem := by
    obtain ⟨arg, there, same⟩ := List.mem_filterMap.mp mem
    obtain ⟨name, -, rfl⟩ := Option.map_eq_some_iff.mp same
    exact h arg there

theorem avoids_collected {entries : List (Value × Value)}
    (h : ∀ e ∈ entries, e.1.Avoids hidden ∧ e.2.Avoids hidden) :
    (Value.map (entries.foldl (fun done entry => Value.insertEntry done entry.1 entry.2)
      [])).Avoids hidden := by
  have collected {done : List (Value × Value)} (keys : ∀ e ∈ done, e.1.Avoids hidden)
      (values : ∀ e ∈ done, e.2.Avoids hidden) : (Value.map (entries.foldl
        (fun done entry => Value.insertEntry done entry.1 entry.2) done)).Avoids hidden := by
    induction entries generalizing done with
    | nil => exact .map keys values
    | cons entry rest ih =>
        obtain ⟨first, others⟩ := List.forall_mem_cons.mp h
        obtain ⟨keys, values⟩ := Value.avoids_insertEntry keys values first.1 first.2
        exact ih others keys values
  exact collected (List.forall_mem_nil _) (List.forall_mem_nil _)

end Settings

mutual

/-- An expression that mentions no hidden name has the same value in both settings. -/
theorem Expr.eval_follows (h : p.Agree hidden s) (hscope : Scope.Avoids hidden scope) {e : Expr}
    (free : hidden.Disjoint e.names) :
    Follows (Value.Avoids hidden) (e.eval p scope) (e.eval s scope) := by
  cases e with
  | literal => exact .ok Literal.avoids_value
  | name id =>
      rw [Expr.names, List.disjoint_singleton] at free
      rw [Expr.eval, Expr.eval, h.lookup? free]
      exact .ok (Filters.avoids_getD fun v found => h.lookup?_avoids hscope free found)
  | list items =>
      rw [Expr.names] at free
      rw [Expr.eval, Expr.eval]
      exact (evalItems_follows h hscope free).bind fun values all => .ok (.list all)
  | map entries =>
      rw [Expr.names] at free
      rw [Expr.eval, Expr.eval]
      exact (evalEntries_follows h hscope free).bind fun values all => .ok (avoids_collected all)
  | negate line e =>
      rw [Expr.names] at free
      rw [Expr.eval, Expr.eval]
      exact (e.eval_follows h hscope free).bind fun v _ => h.place (.refl Value.avoids_negate)
  | not line e =>
      rw [Expr.names] at free
      rw [Expr.eval, Expr.eval]
      exact (e.eval_follows h hscope free).bind fun v _ =>
        (h.place .any).bind fun b _ => .ok (.bool _)
  | both line a b =>
      rw [Expr.names, List.disjoint_append_right] at free
      rw [Expr.eval, Expr.eval]
      refine (a.eval_follows h hscope free.1).bind fun v hv => (h.place .any).bind fun holds _ => ?_
      cases holds with
      | false => exact .ok hv
      | true => exact b.eval_follows h hscope free.2
  | either line a b =>
      rw [Expr.names, List.disjoint_append_right] at free
      rw [Expr.eval, Expr.eval]
      refine (a.eval_follows h hscope free.1).bind fun v hv => (h.place .any).bind fun holds _ => ?_
      cases holds with
      | false => exact b.eval_follows h hscope free.2
      | true => exact .ok hv
  | binary line operator a b =>
      rw [Expr.names, List.disjoint_append_right] at free
      rw [Expr.eval, Expr.eval]
      exact (a.eval_follows h hscope free.1).bind fun v hv =>
        (b.eval_follows h hscope free.2).bind fun w hw =>
          h.place (.refl (Operator.avoids_apply hv hw))
  | choice line test yes no =>
      rw [Expr.names, List.disjoint_append_right, List.disjoint_append_right] at free
      rw [Expr.eval, Expr.eval]
      refine (test.eval_follows h hscope free.1).bind fun v _ =>
        (h.place .any).bind fun holds _ => ?_
      cases holds with
      | false => exact evalOr_follows h hscope free.2.2 (.undefined true)
      | true => exact yes.eval_follows h hscope free.2.1
  | «attribute» line e name =>
      rw [Expr.names] at free
      rw [Expr.eval, Expr.eval]
      exact (e.eval_follows h hscope free).bind fun v hv => h.place (.refl hv.part)
  | item line e key =>
      rw [Expr.names, List.disjoint_append_right] at free
      rw [Expr.eval, Expr.eval]
      exact (e.eval_follows h hscope free.1).bind fun v hv =>
        (key.eval_follows h hscope free.2).bind fun k _ => h.place (.refl hv.part)
  | slice line e start stop step =>
      rw [Expr.names, List.disjoint_append_right, List.disjoint_append_right,
        List.disjoint_append_right] at free
      rw [Expr.eval, Expr.eval]
      exact (e.eval_follows h hscope free.1).bind fun v hv =>
        (evalOr_follows h hscope free.2.1 .none).bind fun _ _ =>
          (evalOr_follows h hscope free.2.2.1 .none).bind fun _ _ =>
            (evalOr_follows h hscope free.2.2.2 .none).bind fun _ _ => h.place (.refl hv.slice)
  | call line function args =>
      rw [Expr.names, List.disjoint_cons_right] at free
      rw [Expr.eval, Expr.eval]
      exact (evalArgs_follows h hscope free.2).bind fun values all =>
        h.place (h.callName hscope free.1 (Passed.avoids_ofArgs all))
  | callMethod line e name args =>
      rw [Expr.names, List.disjoint_append_right] at free
      rw [Expr.eval, Expr.eval]
      exact (e.eval_follows h hscope free.1).bind fun v hv =>
        (evalArgs_follows h hscope free.2).bind fun values all =>
          h.place (h.callMethod hscope hv (Passed.avoids_ofArgs all))
  | callValue line e args =>
      rw [Expr.names, List.disjoint_append_right] at free
      rw [Expr.eval, Expr.eval]
      exact (e.eval_follows h hscope free.1).bind fun v hv =>
        (evalArgs_follows h hscope free.2).bind fun values all =>
          h.place (h.callValue hscope hv (Passed.avoids_ofArgs all))
  | filter line e name args =>
      rw [Expr.names, List.disjoint_append_right] at free
      rw [Expr.eval, Expr.eval]
      exact (e.eval_follows h hscope free.1).bind fun v hv =>
        (evalArgs_follows h hscope free.2).bind fun values all =>
          h.place (.refl (Filters.avoids_apply
            (Passed.avoids_ofArgs (List.forall_mem_cons.mpr ⟨hv, all⟩))))
  | test line e name args =>
      rw [Expr.names, List.disjoint_append_right] at free
      rw [Expr.eval, Expr.eval]
      exact (e.eval_follows h hscope free.1).bind fun v hv =>
        (evalArgs_follows h hscope free.2).bind fun values all =>
          (h.place .any).bind fun b _ => .ok (.bool b)

theorem evalItems_follows (h : p.Agree hidden s) (hscope : Scope.Avoids hidden scope)
    {items : List Expr} (free : hidden.Disjoint (itemNames items)) :
    Follows (AllAvoid hidden) (evalItems p scope items) (evalItems s scope items) := by
  cases items with
  | nil => exact .ok (List.forall_mem_nil _)
  | cons item rest =>
      rw [itemNames, List.disjoint_append_right] at free
      rw [evalItems, evalItems]
      exact (item.eval_follows h hscope free.1).bind fun v hv =>
        (evalItems_follows h hscope free.2).bind fun values all =>
          .ok (List.forall_mem_cons.mpr ⟨hv, all⟩)

theorem evalEntries_follows (h : p.Agree hidden s) (hscope : Scope.Avoids hidden scope)
    {entries : List (Expr × Expr)} (free : hidden.Disjoint (entryNames entries)) :
    Follows (fun values => ∀ e ∈ values, e.1.Avoids hidden ∧ e.2.Avoids hidden)
      (evalEntries p scope entries) (evalEntries s scope entries) := by
  cases entries with
  | nil => exact .ok (List.forall_mem_nil _)
  | cons entry rest =>
      obtain ⟨key, value⟩ := entry
      rw [entryNames, List.disjoint_append_right, List.disjoint_append_right] at free
      rw [evalEntries, evalEntries]
      exact (key.eval_follows h hscope free.1).bind fun k hk =>
        (value.eval_follows h hscope free.2.1).bind fun v hv =>
          (evalEntries_follows h hscope free.2.2).bind fun values all =>
            .ok (List.forall_mem_cons.mpr ⟨⟨hk, hv⟩, all⟩)

theorem evalArgs_follows (h : p.Agree hidden s) (hscope : Scope.Avoids hidden scope) {args : Args}
    (free : hidden.Disjoint (argNames args)) :
    Follows (fun values => ∀ arg ∈ values, arg.2.Avoids hidden) (evalArgs p scope args)
      (evalArgs s scope args) := by
  cases args with
  | nil => exact .ok (List.forall_mem_nil _)
  | cons arg rest =>
      obtain ⟨name, value⟩ := arg
      rw [argNames, List.disjoint_append_right] at free
      rw [evalArgs, evalArgs]
      exact (value.eval_follows h hscope free.1).bind fun v hv =>
        (evalArgs_follows h hscope free.2).bind fun values all =>
          .ok (List.forall_mem_cons.mpr ⟨hv, all⟩)

theorem evalOr_follows (h : p.Agree hidden s) (hscope : Scope.Avoids hidden scope)
    {other : Option Expr} {default : Value} (free : hidden.Disjoint (optionNames other))
    (hdefault : default.Avoids hidden) :
    Follows (Value.Avoids hidden) (evalOr p scope default other)
      (evalOr s scope default other) := by
  cases other with
  | none => exact .ok hdefault
  | some e =>
      rw [optionNames] at free
      rw [evalOr, evalOr]
      exact e.eval_follows h hscope free

end

/-- What an expression asks its loop to compare is part of the expression. -/
theorem Expr.names_of_compared? {e : Expr} {args : Args} (found : e.compared? = some args) :
    argNames args ⊆ e.names := by
  fun_induction Expr.compared? e with
  | case1 line asked =>
      cases found
      rw [Expr.names]
      exact List.subset_append_right _ _
  | case2 line e ih | case3 line e ih =>
      rw [Expr.names]
      exact ih found
  | case4 line e other ih | case5 line e other ih | case6 line operator e other ih
  | case7 line e yes no ih | case8 line e name others ih | case9 line e name others ih =>
      rw [Expr.names]
      exact List.subset_append_of_subset_left _ (ih found)
  | case10 => cases found

theorem scopeAfter_follows (h : p.Agree hidden s) (hscope : Scope.Avoids hidden scope) {e : Expr}
    (free : hidden.Disjoint e.names) :
    Follows (Scope.Avoids hidden) (scopeAfter p scope e) (scopeAfter s scope e) := by
  rw [scopeAfter, scopeAfter]
  split
  · exact .ok hscope
  · rename_i args asked
    have free := List.disjoint_of_subset_right (Expr.names_of_compared? asked) free
    exact (evalArgs_follows h hscope free).bind fun values all =>
      .ok (Scope.avoids_remember hscope (Passed.avoids_ofArgs all).values)

theorem avoids_unpack {count : Nat} {value : Value} (h : value.Avoids hidden) :
    Returns (AllAvoid hidden) (unpack count value) := by
  have ofLength {items : List Value} (all : AllAvoid hidden items) :
      Returns (AllAvoid hidden) (unpack.ofLength count items) := by
    rw [unpack.ofLength]
    split
    · exact .ok all
    · exact .error
  cases h with
  | list all | series all => exact ofLength all
  | map keys => exact ofLength (List.forall_mem_map.mpr keys)
  | undefined | none | bool | int | float | str | function | routine | loop => exact .error

mutual

theorem Target.assign_follows (h : p.Agree hidden s) {scope : Scope}
    (hscope : Scope.Avoids hidden scope) {line : Nat} {value : Value}
    (hvalue : value.Avoids hidden) {target : Target} (free : hidden.Disjoint target.names) :
    Follows (Scope.Avoids hidden) (target.assign p line scope value)
      (target.assign s line scope value) := by
  cases target with
  | name id => exact .ok (Scope.avoids_bind hscope hvalue)
  | «attribute» subject =>
      rw [Target.names] at free
      rw [Target.assign.eq_def, Target.assign.eq_def]
      dsimp only
      split
      · rw [Expr.names] at free
        exact (Expr.eval_follows h hscope free).bind fun owner _ => h.place .error
      · exact (Expr.eval_follows h hscope free).bind fun owner _ => h.place .error
  | list targets =>
      rw [Target.names] at free
      rw [Target.assign, Target.assign]
      exact (h.place (.refl (avoids_unpack hvalue))).bind fun items all =>
        assignItems_follows h hscope all free

theorem assignItems_follows (h : p.Agree hidden s) {scope : Scope}
    (hscope : Scope.Avoids hidden scope) {line : Nat} {items : List Value}
    (all : AllAvoid hidden items) {targets : List Target}
    (free : hidden.Disjoint (targetNames targets)) :
    Follows (Scope.Avoids hidden) (assignItems p line scope items targets)
      (assignItems s line scope items targets) := by
  cases targets with
  | nil => exact .ok hscope
  | cons target rest =>
      rw [targetNames, List.disjoint_append_right] at free
      rw [assignItems, assignItems]
      have first : (items.headD .missing).Avoids hidden := by
        rw [List.headD_eq_head?_getD]
        exact Filters.avoids_head all
      exact (target.assign_follows h hscope first free.1).bind fun inner hinner =>
        assignItems_follows h hinner (fun v mem => all v (List.mem_of_mem_tail mem)) free.2

end

theorem applyFilters_follows (h : p.Agree hidden s) (hscope : Scope.Avoids hidden scope)
    {filters : List TextFilter} (free : hidden.Disjoint (filterNames filters)) {value : Value}
    (hvalue : value.Avoids hidden) :
    Follows (Value.Avoids hidden) (applyFilters p scope filters value)
      (applyFilters s scope filters value) := by
  refine Follows.foldlM (fun v hv filter mem => ?_) hvalue
  have free : hidden.Disjoint (argNames filter.args) :=
    List.disjoint_of_subset_right (fun _ there => List.mem_flatMap_of_mem mem there) free
  exact (evalArgs_follows h hscope free).bind fun values all => h.place (.refl
    (Filters.avoids_apply (Passed.avoids_ofArgs (List.forall_mem_cons.mpr ⟨hv, all⟩))))

theorem Scope.avoids_cons {frame : Frame} (inner : Frame.Avoids hidden frame)
    (outer : Scope.Avoids hidden scope) : Scope.Avoids hidden (frame :: scope) :=
  List.forall_mem_cons.mpr ⟨inner, outer⟩

theorem Scope.avoids_headD (h : Scope.Avoids hidden scope) :
    Frame.Avoids hidden (scope.headD []) := by
  cases scope with
  | nil => exact List.forall_mem_nil _
  | cons frame outer => exact (List.forall_mem_cons.mp h).1

theorem keepItems_follows (h : p.Agree hidden s) (hscope : Scope.Avoids hidden scope)
    {line : Nat} {target : Target} (free : hidden.Disjoint target.names)
    {keep : Option (Nat × Expr)} (freeKeep : hidden.Disjoint (keepNames keep)) {items : List Value}
    (all : AllAvoid hidden items) :
    Follows (AllAvoid hidden) (keepItems p line scope target keep items)
      (keepItems s line scope target keep items) := by
  rw [keepItems.eq_def, keepItems.eq_def]
  split
  · exact .ok all
  · refine Follows.filterM all fun item hitem => ?_
    exact (target.assign_follows h (Scope.avoids_cons (List.forall_mem_nil _) hscope) hitem
      free).bind fun inner hinner => (Expr.eval_follows h hinner freeKeep).bind fun v _ =>
        h.place .any

theorem assignAll_follows (h : p.Agree hidden s) (hscope : Scope.Avoids hidden scope) {line : Nat}
    {bindings : List (Target × Expr)} (free : hidden.Disjoint (bindingNames bindings)) :
    Follows (Scope.Avoids hidden) (assignAll p line scope bindings)
      (assignAll s line scope bindings) := by
  induction bindings generalizing scope with
  | nil => exact .ok hscope
  | cons binding rest ih =>
      obtain ⟨target, value⟩ := binding
      rw [bindingNames, List.flatMap_cons, List.disjoint_append_right,
        List.disjoint_append_right] at free
      rw [assignAll, assignAll]
      exact (value.eval_follows h hscope free.1.1).bind fun v hv =>
        (target.assign_follows h hscope hv free.1.2).bind fun inner hinner => ih hinner free.2

theorem avoids_rounds {length index : Nat} {previous : Value} {items : List Value}
    (before : previous.Avoids hidden) (all : AllAvoid hidden items) :
    ∀ visit ∈ rounds length index previous items,
      visit.1.Avoids hidden ∧ visit.2.Avoids hidden := by
  induction items generalizing index previous with
  | nil => exact List.forall_mem_nil _
  | cons item rest ih =>
      obtain ⟨first, others⟩ := List.forall_mem_cons.mp all
      refine List.forall_mem_cons.mpr ⟨⟨first, .loop _ _ before ?_ nofun⟩, ih first others⟩
      rw [List.headD_eq_head?_getD]
      exact Filters.avoids_head others

theorem avoids_resumed {frame : Frame} {loop : Value} (hframe : Frame.Avoids hidden frame)
    (hloop : loop.Avoids hidden) : (resumed frame loop).Avoids hidden := by
  rw [resumed.eq_def]
  split
  · rename_i bound
    have earlier := Passed.avoids_lookup hframe bound
    cases earlier with
    | loop _ _ _ _ compared =>
        cases hloop with
        | loop _ _ before behind => exact .loop _ _ before behind compared
  · exact hloop

mutual

/-- Statements that mention no hidden name write the same text in both settings and leave the same
    scopes. -/
theorem Stmt.run_follows (h : p.Agree hidden s) {scope : Scope}
    (hscope : Scope.Avoids hidden scope) {stmt : Stmt} (free : hidden.Disjoint stmt.names) :
    Follows (fun ran => Scope.Avoids hidden ran.2) (stmt.run p scope) (stmt.run s scope) := by
  cases stmt with
  | text t => exact .ok hscope
  | print line e =>
      rw [Stmt.names] at free
      rw [Stmt.run, Stmt.run]
      exact (e.eval_follows h hscope free).bind fun v _ => (h.place .any).bind fun t _ =>
        (scopeAfter_follows h hscope free).bind fun inner hinner => .ok hinner
  | branch line test yes no =>
      rw [Stmt.names, List.disjoint_append_right, List.disjoint_append_right] at free
      rw [Stmt.run, Stmt.run]
      refine (test.eval_follows h hscope free.1).bind fun v _ => (h.place .any).bind fun holds _ =>
        (scopeAfter_follows h hscope free.1).bind fun inner hinner => ?_
      cases holds with
      | false => exact runAll_follows h hinner free.2.2
      | true => exact runAll_follows h hinner free.2.1
  | each line target source keep body otherwise =>
      simp only [Stmt.names, List.disjoint_append_right] at free
      obtain ⟨freeSource, freeTarget, freeKeep, freeBody, freeOther⟩ := free
      rw [Stmt.run, Stmt.run]
      refine (source.eval_follows h hscope freeSource).bind fun v hv =>
        (h.place (.refl hv.visited)).bind fun items all =>
          (keepItems_follows h hscope freeTarget freeKeep all).bind fun kept all => ?_
      split
      · exact runAll_follows h hscope freeOther
      · refine Follows.bind (P := fun state => Frame.Avoids hidden state.2) ?_ fun state _ =>
          .ok hscope
        refine Follows.foldlM (fun state hstate visit mem => ?_) (List.forall_mem_nil _)
        obtain ⟨item, loop⟩ := visit
        obtain ⟨hitem, hloop⟩ := avoids_rounds Value.avoids_missing all _ mem
        have hloop := avoids_resumed hstate hloop
        exact (target.assign_follows h (Scope.avoids_cons (Frame.avoids_bind hstate hloop) hscope)
          hitem freeTarget).bind fun inner hinner => (runAll_follows h hinner freeBody).bind
            fun ran hran => .ok (Scope.avoids_headD hran)
  | assign line target value =>
      rw [Stmt.names, List.disjoint_append_right] at free
      rw [Stmt.run, Stmt.run]
      exact (value.eval_follows h hscope free.1).bind fun v hv =>
        (target.assign_follows h hscope hv free.2).bind fun inner hinner => .ok hinner
  | capture line target filters body =>
      rw [Stmt.names, List.disjoint_append_right, List.disjoint_append_right] at free
      rw [Stmt.run, Stmt.run]
      exact (runAll_follows h hscope free.1).bind fun ran hran =>
        (applyFilters_follows h hran free.2.1 (.str _)).bind fun v hv =>
          (target.assign_follows h hran hv free.2.2).bind fun inner hinner => .ok hinner
  | scope line bindings body =>
      rw [Stmt.names, List.disjoint_append_right] at free
      rw [Stmt.run, Stmt.run]
      exact (assignAll_follows h (Scope.avoids_cons (List.forall_mem_nil _) hscope) free.1).bind
        fun inner hinner => (runAll_follows h hinner free.2).bind fun _ _ => .ok hscope
  | filtered filters body =>
      rw [Stmt.names, List.disjoint_append_right] at free
      rw [Stmt.run, Stmt.run]
      exact (runAll_follows h hscope free.1).bind fun ran hran =>
        (applyFilters_follows h hran free.2 (.str _)).bind fun v _ => .ok hran
  | define name params body =>
      rw [Stmt.names, List.disjoint_append_right] at free
      rw [Stmt.run, Stmt.run]
      exact .ok (Scope.avoids_bind hscope (.routine _ _ free.1 free.2))
  | embed line source optional =>
      rw [Stmt.names] at free
      rw [Stmt.run, Stmt.run]
      exact (source.eval_follows h hscope free).bind fun v _ => h.place (h.embed_follows hscope)

theorem runAll_follows (h : p.Agree hidden s) {scope : Scope}
    (hscope : Scope.Avoids hidden scope) {body : List Stmt}
    (free : hidden.Disjoint (bodyNames body)) :
    Follows (fun ran => Scope.Avoids hidden ran.2) (runAll p scope body) (runAll s scope body) := by
  cases body with
  | nil => exact .ok hscope
  | cons stmt rest =>
      rw [bodyNames, List.disjoint_append_right] at free
      rw [runAll, runAll]
      exact (stmt.run_follows h hscope free.1).bind fun ran hran =>
        (runAll_follows h hran free.2).bind fun more hmore => .ok hmore

end

theorem bindParams_follows (h : p.Agree hidden s) (hscope : Scope.Avoids hidden scope)
    {passed : Passed} (hpassed : passed.Avoids hidden) {index : Nat} {params : Params}
    (free : hidden.Disjoint (paramNames params)) :
    Follows (Frame.Avoids hidden) (bindParams p scope passed index params)
      (bindParams s scope passed index params) := by
  induction params generalizing index with
  | nil => exact .ok (List.forall_mem_nil _)
  | cons param rest ih =>
      obtain ⟨name, default⟩ := param
      rw [paramNames, List.flatMap_cons, List.disjoint_append_right] at free
      rw [bindParams, bindParams]
      refine (ih free.2).bind fun frame hframe => ?_
      have settled {given : Value} (hgiven : given.Avoids hidden) :
          Follows (Frame.Avoids hidden)
            (if given.isUndefined then
              evalOr p (frame :: scope) given default >>= fun v => .ok (frame.bind name v)
              else .ok (frame.bind name given))
            (if given.isUndefined then
              evalOr s (frame :: scope) given default >>= fun v => .ok (frame.bind name v)
              else .ok (frame.bind name given)) := by
        split
        · exact (evalOr_follows h (Scope.avoids_cons hframe hscope) free.1 hgiven).bind
            fun v hv => .ok (Frame.avoids_bind hframe hv)
        · exact .ok (Frame.avoids_bind hframe hgiven)
      dsimp only
      split
      · exact .error
      · rename_i given there
        exact settled (Value.avoids_getElem? hpassed.values given)
      · rename_i given
        exact settled (Passed.avoids_lookup hpassed.named given)
      · exact settled Value.avoids_missing

theorem callRoutine_follows (h : p.Agree hidden s) (hscope : Scope.Avoids hidden scope)
    {params : Params} {body : List Stmt} {passed : Passed}
    (freeParams : hidden.Disjoint (paramNames params)) (free : hidden.Disjoint (bodyNames body))
    (hpassed : passed.Avoids hidden) :
    Follows (Value.Avoids hidden) (callRoutine p scope params body passed)
      (callRoutine s scope params body passed) := by
  rw [callRoutine, callRoutine]
  split
  · exact .error
  · split
    · exact .error
    · exact (bindParams_follows h hscope hpassed freeParams).bind fun frame hframe =>
        (runAll_follows h (Scope.avoids_cons hframe hscope) free).bind fun _ _ => .ok (.str _)

end ClientGen.Template
