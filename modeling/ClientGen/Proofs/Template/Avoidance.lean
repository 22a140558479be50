import ClientGen.Proofs.Lookup
import ClientGen.Proofs.Template.Names

/-! # Computing without hidden names

Operators, filters and shared functions make their results of the values that they are given, so
none of them comes upon a function that none of these values is. The same goes for what a template
keeps in its scopes.
-/

namespace ClientGen.Template

variable {hidden : List String}

section Operators

variable {a b value : Value} {operator : Operator} {items : List Value}

namespace Value

theorem avoids_whole {i : Option Int} : Returns (Avoids hidden) (operator.whole a b i) := by
  rw [Operator.whole.eq_def]
  split
  · split
    · exact .ok (.int _)
    · exact .error
  · exact .error

theorem avoids_compute : Returns (Avoids hidden) (compute operator a b) := by
  rw [compute]
  split
  · exact avoids_whole
  · exact .ok (.float _)
  · exact .error

theorem avoids_repeatText {s : String} : Returns (Avoids hidden) (repeatText s value) := by
  rw [repeatText]
  split
  · exact .ok (.str _)
  · exact .error

theorem avoids_repeatItems (h : AllAvoid hidden items) :
    Returns (Avoids hidden) (repeatItems items value) := by
  rw [repeatItems]
  split
  · refine .ok (.series fun v mem => ?_)
    obtain ⟨copy, there, mem⟩ := List.mem_flatten.mp mem
    exact h v (List.eq_of_mem_replicate there ▸ mem)
  · exact .error

theorem Avoids.all_list (h : (Value.list items).Avoids hidden) : AllAvoid hidden items := by
  cases h
  assumption

theorem Avoids.all_series (h : (Value.series items).Avoids hidden) : AllAvoid hidden items := by
  cases h
  assumption

theorem Avoids.add (ha : a.Avoids hidden) (hb : b.Avoids hidden) :
    Returns (Avoids hidden) (a.add b) := by
  rw [Value.add.eq_def]
  split
  · exact .ok (.str _)
  · exact .ok (.series (List.forall_mem_append.mpr ⟨ha.all_list, hb.all_list⟩))
  · exact .ok (.series (List.forall_mem_append.mpr ⟨ha.all_list, hb.all_series⟩))
  · exact .ok (.series (List.forall_mem_append.mpr ⟨ha.all_series, hb.all_list⟩))
  · exact .ok (.series (List.forall_mem_append.mpr ⟨ha.all_series, hb.all_series⟩))
  · exact avoids_compute

theorem Avoids.multiply (ha : a.Avoids hidden) (hb : b.Avoids hidden) :
    Returns (Avoids hidden) (a.multiply b) := by
  rw [Value.multiply.eq_def]
  split
  · exact avoids_repeatText
  · exact avoids_repeatText
  · exact avoids_repeatItems ha.all_list
  · exact avoids_repeatItems ha.all_series
  · exact avoids_repeatItems hb.all_list
  · exact avoids_repeatItems hb.all_series
  · exact avoids_compute

theorem avoids_divide : Returns (Avoids hidden) (a.divide b) := by
  rw [divide]
  split
  · exact .ok (.float _)
  · exact .error

theorem avoids_negate : Returns (Avoids hidden) a.negate := by
  rw [negate.eq_def]
  split
  · exact .ok (.float _)
  · split
    · exact .ok (.int _)
    · exact .error
  · exact .error

theorem avoids_whenDefined {result : Value} (h : result.Avoids hidden) :
    Returns (Avoids hidden) (a.whenDefined b result) := by
  rw [whenDefined]
  split
  · exact .error
  · exact .ok h

end Value

theorem Operator.avoids_apply (ha : a.Avoids hidden) (hb : b.Avoids hidden) :
    Returns (Value.Avoids hidden) (operator.apply a b) := by
  cases operator with
  | add => exact ha.add hb
  | multiply => exact ha.multiply hb
  | divide => exact Value.avoids_divide
  | subtract | floorDivide | remainder | power => exact Value.avoids_compute
  | join => exact Value.avoids_whenDefined (.str _)
  | equal | different | less | atMost | greater | atLeast =>
      exact Value.avoids_whenDefined (.bool _)
  | element => exact Returns.map (P := fun _ => True) (fun _ _ => trivial) fun _ _ => .bool _

end Operators

namespace Passed

variable {passed : Passed} {name : String}

theorem Avoids.take (h : passed.Avoids hidden) :
    Returns (fun taken => taken.1.Avoids hidden ∧ taken.2.Avoids hidden) passed.take := by
  rw [Passed.take]
  split
  · rename_i value rest given
    have values := h.values
    rw [given] at values
    obtain ⟨first, others⟩ := List.forall_mem_cons.mp values
    exact .ok ⟨first, others, h.named⟩
  · exact .error

theorem avoids_lookup {entries : List (String × Value)} {value : Value}
    (h : ∀ entry ∈ entries, entry.2.Avoids hidden) (found : entries.lookup name = some value) :
    value.Avoids hidden :=
  h (name, value) (mem_of_lookup found)

theorem Avoids.take? (h : passed.Avoids hidden) (name : String) :
    (∀ value, (passed.take? name).1 = some value → value.Avoids hidden) ∧
      (passed.take? name).2.Avoids hidden := by
  obtain ⟨values, named⟩ := passed
  obtain ⟨hvalues, hnamed⟩ := h
  cases values with
  | nil =>
      have rest : Avoids hidden ⟨[], named.filter fun entry => entry.1 != name⟩ :=
        ⟨hvalues, fun entry mem => hnamed entry (List.mem_of_mem_filter mem)⟩
      dsimp only [Passed.take?]
      split
      · exact ⟨nofun, rest⟩
      · exact ⟨nofun, rest⟩
      · exact ⟨fun value found => avoids_lookup hnamed found, rest⟩
  | cons first others =>
      obtain ⟨hfirst, hothers⟩ := List.forall_mem_cons.mp hvalues
      have rest : Avoids hidden ⟨others, named⟩ := ⟨hothers, hnamed⟩
      dsimp only [Passed.take?]
      split
      · exact ⟨nofun, rest⟩
      · exact ⟨nofun, rest⟩
      · refine ⟨fun value found => ?_, rest⟩
        cases found
        exact hfirst

end Passed

namespace Filters

variable {passed : Passed} {value : Value} {name : String}

theorem avoids_onText {f : String → String} : Returns (Value.Avoids hidden) (onText f passed) :=
  .seq fun _ => .seq fun _ => .ok (.str _)

theorem avoids_onValue {f : Value → Except Error Value} (h : passed.Avoids hidden)
    (made : ∀ value : Value, value.Avoids hidden → Returns (Value.Avoids hidden) (f value)) :
    Returns (Value.Avoids hidden) (onValue f passed) :=
  h.take.bind fun taken avoids => .seq fun _ => made taken.1 avoids.1

theorem avoids_trim : Returns (Value.Avoids hidden) (trim passed) :=
  .seq fun _ => .seq fun _ => .seq fun _ => .ok (.str _)

theorem avoids_indent : Returns (Value.Avoids hidden) (indent passed) :=
  .seq fun _ => .seq fun _ => .seq fun _ => .seq fun _ => .seq fun _ => .seq fun _ => .ok (.str _)

theorem avoids_replace : Returns (Value.Avoids hidden) (replace passed) :=
  .seq fun _ => .seq fun _ => .seq fun _ => .seq fun _ => .ok (.str _)

theorem avoids_join : Returns (Value.Avoids hidden) (join passed) := by
  refine .seq fun taken => .seq fun separator => .seq fun _ => ?_
  split
  · exact .ok (.str _)
  · exact .error

theorem avoids_size : Returns (Value.Avoids hidden) (size value) := by
  rw [size.eq_def]
  split
  · exact .ok (.int _)
  · exact .ok (.int _)
  · exact .ok (.int _)
  · exact .ok (.int _)
  · exact .error

theorem avoids_getD {found : Option Value} (h : ∀ v, found = some v → v.Avoids hidden) :
    (found.getD .missing).Avoids hidden := by
  cases found with
  | none => exact Value.avoids_missing
  | some v => exact h v rfl

theorem avoids_head {items : List Value} (h : AllAvoid hidden items) :
    (items.head?.getD .missing).Avoids hidden :=
  avoids_getD fun v found => h v (List.mem_of_mem_head? found)

theorem avoids_getLast {items : List Value} (h : AllAvoid hidden items) :
    (items.getLast?.getD .missing).Avoids hidden :=
  avoids_getD fun v found => h v (List.mem_of_getLast? found)

theorem avoids_first (h : value.Avoids hidden) : Returns (Value.Avoids hidden) (first value) := by
  cases h with
  | str s => exact .ok (avoids_head Value.avoids_characters)
  | list h | series h => exact .ok (avoids_head h)
  | map keys =>
      refine .ok ?_
      rw [← List.head?_map]
      exact avoids_head (List.forall_mem_map.mpr keys)
  | undefined | none | bool | int | float | function | routine | loop => exact .error

theorem avoids_last (h : value.Avoids hidden) : Returns (Value.Avoids hidden) (last value) := by
  cases h with
  | str s => exact .ok (avoids_getLast Value.avoids_characters)
  | list h | series h => exact .ok (avoids_getLast h)
  | undefined | none | bool | int | float | map | function | routine | loop => exact .error

theorem avoids_reverse (h : value.Avoids hidden) :
    Returns (Value.Avoids hidden) (reverse value) := by
  have reversed {items : List Value} (h : AllAvoid hidden items) : AllAvoid hidden items.reverse :=
    fun v mem => h v (List.mem_reverse.mp mem)
  cases h with
  | undefined silent => exact .ok (.undefined silent)
  | none => exact .ok .none
  | str s => exact .ok (.str _)
  | list h | series h => exact .ok (.series (reversed h))
  | map keys => exact .ok (.series (reversed (List.forall_mem_map.mpr keys)))
  | bool | int | float | function | routine | loop => exact .error

theorem avoids_pairs (h : value.Avoids hidden) : Returns (Value.Avoids hidden) (pairs value) := by
  cases h with
  | map keys values =>
      refine .ok (.list (List.forall_mem_map.mpr fun e mem => .list ?_))
      exact List.forall_mem_cons.mpr ⟨keys e mem, List.forall_mem_singleton.mpr (values e mem)⟩
  | undefined | none | bool | int | float | str | list | series | function | routine | loop =>
      exact .error

theorem avoids_listed (h : value.Avoids hidden) : Returns (AllAvoid hidden) (listed value) := by
  rw [listed]
  split
  · rename_i items visited
    exact .ok (h.visited items visited)
  · exact .error

theorem avoids_list (h : value.Avoids hidden) : Returns (Value.Avoids hidden) (list value) :=
  (avoids_listed h).map fun _ => .list

theorem avoids_sort (h : passed.Avoids hidden) : Returns (Value.Avoids hidden) (sort passed) := by
  refine h.take.bind fun taken avoids => (avoids_listed avoids.1).bind fun items all => ?_
  dsimp only
  refine .seq fun _ => .seq fun _ => .seq fun _ => .ok (.list fun v mem => all v ?_)
  split at mem
  · exact List.mem_mergeSort.mp (List.mem_reverse.mp mem)
  · exact List.mem_mergeSort.mp mem

theorem avoids_fallback (h : passed.Avoids hidden) :
    Returns (Value.Avoids hidden) (fallback passed) := by
  refine h.take.bind fun taken avoids => ?_
  obtain ⟨other, -⟩ := avoids.2.take? "default_value"
  dsimp only
  refine .seq fun _ => .seq fun _ => ?_
  split
  · refine .ok ?_
    cases found : (taken.2.take? "default_value").1 with
    | none => exact .str ""
    | some value => exact other value found
  · exact .ok avoids.1

theorem avoids_int : Returns (Value.Avoids hidden) (int value) := by
  rw [int.eq_def]
  split
  · exact .ok (.int _)
  · exact .ok (.int _)
  · exact .ok (.int _)
  · exact .ok (.int _)
  · exact .ok (.int _)
  · split
    · exact .ok (.int _)
    · exact .ok (.int _)
    · exact .error
  · exact .error

theorem avoids_string : Returns (Value.Avoids hidden) (string value) :=
  .ok (.str _)

theorem avoids_table : ∀ entry ∈ table, ∀ passed : Passed, passed.Avoids hidden →
    Returns (Value.Avoids hidden) (entry.2 passed) := by
  simp only [table, List.forall_mem_cons]
  exact ⟨fun _ _ => avoids_onText, fun _ _ => avoids_onText, fun _ _ => avoids_onText,
    fun _ _ => avoids_onText, fun _ _ => avoids_trim, fun _ _ => avoids_indent,
    fun _ _ => avoids_replace, fun _ _ => avoids_join, fun _ h => avoids_sort h,
    fun _ h => avoids_onValue h fun _ _ => avoids_size,
    fun _ h => avoids_onValue h fun _ _ => avoids_size,
    fun _ h => avoids_onValue h fun _ => avoids_first,
    fun _ h => avoids_onValue h fun _ => avoids_last,
    fun _ h => avoids_onValue h fun _ => avoids_reverse,
    fun _ h => avoids_onValue h fun _ => avoids_pairs,
    fun _ h => avoids_onValue h fun _ => avoids_list,
    fun _ h => avoids_fallback h, fun _ h => avoids_fallback h,
    fun _ h => avoids_onValue h fun _ _ => avoids_int,
    fun _ h => avoids_onValue h fun _ _ => avoids_string, List.forall_mem_nil _⟩

/-- What a filter makes of values that avoid hidden names avoids them. -/
theorem avoids_apply (h : passed.Avoids hidden) :
    Returns (Value.Avoids hidden) (apply name passed) := by
  rw [apply]
  split
  · rename_i filter found
    exact avoids_table (name, filter) (mem_of_lookup found) passed h
  · exact .error

end Filters

namespace Environment

variable {passed : Passed} {quoting : Text.Quoting}

theorem avoids_rangeItems {start stop step : Int} :
    AllAvoid hidden (rangeItems start stop step) :=
  List.forall_mem_map.mpr fun _ _ => .int _

theorem avoids_range : Returns (Value.Avoids hidden) (range passed) := by
  refine .seq fun first => .seq fun start => .seq fun second => .seq fun step => .seq fun _ => ?_
  dsimp only
  split
  · exact .error
  · -- whether one bound is given or two only decides which numbers these are
    split
    all_goals
      split
      · exact .error
      · exact .ok (.series avoids_rangeItems)

theorem avoids_docComment : Returns (Value.Avoids hidden) (docComment passed) :=
  .seq fun _ => .seq fun _ => .seq fun _ => .ok (.str _)

theorem avoids_literal :
    Returns (Value.Avoids hidden)
      (Filters.onValue (fun value => .ok (.str (literal quoting value))) passed) :=
  .seq fun _ => .seq fun _ => .ok (.str _)

end Environment

/-- A shared value avoids hidden names, and a shared function does not come upon them. -/
def Global.Avoids (hidden : List String) : Global → Prop
  | .value v => v.Avoids hidden
  | .function f =>
      ∀ passed : Passed, passed.Avoids hidden → Returns (Value.Avoids hidden) (f passed)

def Environment.Avoids (hidden : List String) (env : Environment) : Prop :=
  ∀ entry ∈ env.globals, entry.2.Avoids hidden

theorem Environment.standard_avoids : standard.Avoids hidden := by
  simp only [Environment.Avoids, standard, bindLiteral, bindHelper, bind, List.forall_mem_cons]
  exact ⟨fun _ _ => avoids_literal, fun _ _ => avoids_docComment,
    fun _ _ => Filters.avoids_onText, fun _ _ => Filters.avoids_onText,
    fun _ _ => Filters.avoids_onText, fun _ _ => avoids_range, List.forall_mem_nil _⟩

mutual

/-- Data has no functions in it. -/
theorem Value.avoids_ofJson : ∀ data : Json, (Value.ofJson data).Avoids hidden
  | .null => .none
  | .bool b => .bool b
  | .int i => .int i
  | .float x => .float x
  | .str s => .str s
  | .arr items => .list (avoids_ofJsonItems items)
  | .obj fields => .map (avoids_ofJsonFields fields).1 (avoids_ofJsonFields fields).2

theorem Value.avoids_ofJsonItems : ∀ items : List Json, AllAvoid hidden (Value.ofJsonItems items)
  | [] => List.forall_mem_nil _
  | item :: rest => List.forall_mem_cons.mpr ⟨avoids_ofJson item, avoids_ofJsonItems rest⟩

theorem Value.avoids_ofJsonFields : ∀ fields : List (String × Json),
    (∀ e ∈ Value.ofJsonFields fields, e.1.Avoids hidden) ∧
      ∀ e ∈ Value.ofJsonFields fields, e.2.Avoids hidden
  | [] => ⟨List.forall_mem_nil _, List.forall_mem_nil _⟩
  | (name, value) :: rest =>
      ⟨List.forall_mem_cons.mpr ⟨.str name, (avoids_ofJsonFields rest).1⟩,
        List.forall_mem_cons.mpr ⟨avoids_ofJson value, (avoids_ofJsonFields rest).2⟩⟩

end

section Scopes

variable {frame : Frame} {scope : Scope} {name : String} {value : Value}

theorem Frame.avoids_bind (h : Frame.Avoids hidden frame) (hvalue : value.Avoids hidden) :
    Frame.Avoids hidden (frame.bind name value) := by
  induction frame with
  | nil => exact List.forall_mem_singleton.mpr hvalue
  | cons entry rest ih =>
      obtain ⟨first, others⟩ := List.forall_mem_cons.mp h
      rw [Frame.bind.eq_def]
      dsimp only
      split
      · exact List.forall_mem_cons.mpr ⟨hvalue, others⟩
      · exact List.forall_mem_cons.mpr ⟨first, ih others⟩

theorem Scope.avoids_bind (h : Scope.Avoids hidden scope) (hvalue : value.Avoids hidden) :
    Scope.Avoids hidden (scope.bind name value) := by
  cases scope with
  | nil => exact List.forall_mem_singleton.mpr (List.forall_mem_singleton.mpr hvalue)
  | cons frame outer =>
      obtain ⟨inner, others⟩ := List.forall_mem_cons.mp h
      exact List.forall_mem_cons.mpr ⟨Frame.avoids_bind inner hvalue, others⟩

theorem Scope.avoids_lookup? (h : Scope.Avoids hidden scope)
    (found : scope.lookup? name = some value) : value.Avoids hidden := by
  obtain ⟨frame, mem, bound⟩ := List.exists_of_findSome?_eq_some found
  exact Passed.avoids_lookup (h frame mem) bound

theorem Scope.avoids_drop {n : Nat} (h : Scope.Avoids hidden scope) :
    Scope.Avoids hidden (scope.drop n) :=
  fun frame mem => h frame (List.mem_of_mem_drop mem)

theorem Value.Avoids.compare {index length : Nat} {previous next : Value}
    {compared : Option (List Value)} {values : List Value}
    (h : (Value.loop index length previous next compared).Avoids hidden)
    (all : AllAvoid hidden values) :
    (Value.loop index length previous next (some values)).Avoids hidden := by
  cases h with
  | loop _ _ before behind =>
      refine .loop _ _ before behind fun others same => ?_
      cases same
      exact all

theorem Scope.avoids_remember {values : List Value} (h : Scope.Avoids hidden scope)
    (all : AllAvoid hidden values) : Scope.Avoids hidden (Scope.remember values scope) := by
  induction scope with
  | nil => exact h
  | cons frame outer ih =>
      obtain ⟨inner, others⟩ := List.forall_mem_cons.mp h
      rw [Scope.remember]
      split
      · rename_i bound
        have loop := Passed.avoids_lookup inner bound
        exact List.forall_mem_cons.mpr ⟨Frame.avoids_bind inner (loop.compare all), others⟩
      · exact List.forall_mem_cons.mpr ⟨inner, ih others⟩

theorem avoids_frameOf (h : value.Avoids hidden) :
    Frame.Avoids hidden (Environment.frameOf value) := by
  cases h with
  | map _ values =>
      intro entry mem
      obtain ⟨e, there, bound⟩ := List.mem_filterMap.mp mem
      dsimp only at bound
      split at bound
      · cases bound
        exact values e there
      · cases bound
  | undefined | none | bool | int | float | str | list | series | function | routine | loop =>
      exact List.forall_mem_nil _

end Scopes

end ClientGen.Template
