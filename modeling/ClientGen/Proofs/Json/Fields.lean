import ClientGen.Json.Decode
import ClientGen.Proofs.Lookup

/-! # Fields of objects

The fields of an object are sorted, so putting a field in its place changes no other one, and
looking a name up in an object is looking it up in the fields that the object was made of. What
a decoder has given was decoded step by step.
-/

namespace ClientGen.Json

variable {α β ε : Type} {fields : List (String × Json)} {name : String}

/-- The fields of the object that is made of some fields. -/
def sortFields (fields : List (String × Json)) : List (String × Json) :=
  fields.foldl (fun sorted field => insertField field.1 field.2 sorted) []

theorem insertField_putsInOrder : PutsInOrder insertField where
  last _ _ := rfl
  front _ _ _ smaller := by rw [insertField, if_neg smaller.ne, if_pos smaller]
  replace _ _ _ _ := by rw [insertField, if_pos rfl]
  behind _ _ _ greater := by rw [insertField, if_neg greater.ne', if_neg greater.not_gt]

/-- Of several fields with one name the last counts. -/
theorem lookup_sortFields (fields : List (String × Json)) (name : String) :
    (sortFields fields).lookup name = fields.reverse.lookup name := by
  rw [sortFields, lookup_foldl_insert insertField_putsInOrder.inserts, List.lookup_nil,
    Option.or_none]

theorem bind_eq_ok {x : Except ε α} {f : α → Except ε β} {b : β} :
    (x >>= f) = .ok b ↔ ∃ a, x = .ok a ∧ f a = .ok b := by
  cases x with
  | error e => exact ⟨nofun, nofun⟩
  | ok a => exact ⟨fun h => ⟨a, rfl, h⟩, fun ⟨_, rfl, h⟩ => h⟩

theorem bind_ok {x : Except ε α} {f : α → Except ε β} {a : α} {b : β} (first : x = .ok a)
    (rest : f a = .ok b) : (x >>= f) = .ok b :=
  bind_eq_ok.mpr ⟨a, first, rest⟩

theorem mapError_eq_ok {ε' : Type} {x : Except ε α} {f : ε → ε'} {a : α} :
    x.mapError f = .ok a ↔ x = .ok a := by
  cases x with
  | error e =>
      refine ⟨fun h => ?_, fun h => ?_⟩
      · cases h
      · cases h
  | ok b => simp [Except.mapError]

theorem mapError_eq_error {ε' : Type} {x : Except ε α} {f : ε → ε'} {e' : ε'} :
    x.mapError f = .error e' ↔ ∃ e, x = .error e ∧ f e = e' := by
  cases x with
  | error e => simp [Except.mapError]
  | ok a => simp [Except.mapError]

theorem fieldOf_eq_some {decode : Json → Except DecodeError α} {x : α}
    (h : fieldOf fields name decode = .ok (some x)) : ∃ value, decode value = .ok x := by
  unfold fieldOf at h
  cases found : fields.lookup name with
  | none => simp [found] at h
  | some value =>
      refine ⟨value, ?_⟩
      simp only [found] at h
      cases decoded : decode value with
      | error e => simp [decoded, Except.map] at h
      | ok y => simpa [decoded, Except.map] using h

theorem required_eq_ok {x : Option α} {y : α} : required name x = .ok y ↔ x = some y := by
  cases x <;> simp [required]

theorem itemOf_eq_ok {items : List Json} {index : Nat} {expected : String}
    {decode : Json → Except DecodeError α} {x : α}
    (h : itemOf items index expected decode = .ok x) : ∃ value, decode value = .ok x := by
  unfold itemOf at h
  split at h
  · exact ⟨_, h⟩
  · cases h

theorem itemOr_eq_ok {items : List Json} {index : Nat} {default : α}
    {decode : Json → Except DecodeError α} {x : α}
    (h : itemOr items index default decode = .ok x) :
    x = default ∨ ∃ value, decode value = .ok x := by
  unfold itemOr at h
  split at h
  · exact .inr ⟨_, h⟩
  · cases h
    exact .inl rfl

end ClientGen.Json
