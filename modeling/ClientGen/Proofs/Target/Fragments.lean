import ClientGen.Proofs.Target.Form

/-! # What sources declare

A source is taken apart into the names of what is declared in it and the code around them. Putting
sources together puts their declarations together.
-/

namespace ClientGen.Target

/-- A fragment of a source: code, or the name of something that is declared there. -/
inductive Fragment where
  | code (text : String)
  | name (declared : String)

namespace Fragment

def text : Fragment → String
  | code text => text
  | name declared => declared

def declared? : Fragment → Option String
  | code _ => none
  | name declared => some declared

/-- The source that is made of fragments. -/
def source (fragments : List Fragment) : String :=
  String.join (fragments.map text)

/-- The names that are declared in it. -/
def declared (fragments : List Fragment) : List String :=
  fragments.filterMap declared?

variable {α : Type} {fragments others : List Fragment} {xs : List α} {name : String}

@[simp]
theorem source_nil : source [] = "" := rfl

@[simp]
theorem source_code {text : String} : source (code text :: fragments) = text ++ source fragments :=
  String.join_cons

@[simp]
theorem source_name : source (.name name :: fragments) = name ++ source fragments :=
  String.join_cons

@[simp]
theorem source_append : source (fragments ++ others) = source fragments ++ source others := by
  rw [source, List.map_append, String.join_append]
  rfl

@[simp]
theorem declared_nil : declared [] = [] := rfl

@[simp]
theorem declared_code {text : String} :
    declared (code text :: fragments) = declared fragments := rfl

@[simp]
theorem declared_name : declared (.name name :: fragments) = name :: declared fragments := rfl

@[simp]
theorem declared_append : declared (fragments ++ others) = declared fragments ++ declared others :=
  List.filterMap_append

theorem source_flatMap {taken : α → List Fragment} {written : α → String}
    (h : ∀ x ∈ xs, source (taken x) = written x) :
    source (xs.flatMap taken) = String.join (xs.map written) := by
  induction xs with
  | nil => rfl
  | cons x xs ih =>
      obtain ⟨first, others⟩ := List.forall_mem_cons.mp h
      rw [List.flatMap_cons, source_append, first, ih others, List.map_cons, String.join_cons]

theorem declared_flatMap {taken : α → List Fragment} {names : α → List String}
    (h : ∀ x ∈ xs, declared (taken x) = names x) :
    declared (xs.flatMap taken) = xs.flatMap names := by
  induction xs with
  | nil => rfl
  | cons x xs ih =>
      obtain ⟨first, others⟩ := List.forall_mem_cons.mp h
      rw [List.flatMap_cons, declared_append, first, ih others, List.flatMap_cons]

end Fragment

end ClientGen.Target
