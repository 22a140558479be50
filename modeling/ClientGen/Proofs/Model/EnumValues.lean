import ClientGen.Model.Document
import ClientGen.Proofs.Json.Documents

/-! # Values of enumerations

Where the values of enumeration members stand in a document, and what becomes of a whole number
there: it is kept if it fits into 64 bits, with or without a sign, and is floating-point otherwise.
-/

namespace ClientGen

open Json

namespace Types

/-- The value of a member: the place of its enumeration comes first, then its own. -/
def value? (types : Types) (i j : Nat) : Option Scalar :=
  types.enums[i]?.bind fun enum => enum.values[j]?.map (·.value)

/-- Put a value in place of that of a member. -/
def setValue (types : Types) (i j : Nat) (value : Scalar) : Types :=
  { types with enums := types.enums.modify i fun enum =>
      { enum with values := enum.values.modify j fun member => { member with value } } }

end Types

/-- The place of the value of a member in a document. -/
def memberPath (i j : Nat) : List Json.Step :=
  [.field "enums", .item i, .field "values", .item j, .field "value"]

section Decoding

variable {α : Type} {decode : Json → Except DecodeError α} {fields : List (String × Json)}
  {name : String} {items : List Json} {path others : List Json.Step} {u v : Json} {i j : Nat}

theorem at?_append : at? (path ++ others) v = (at? path v).bind (at? others) := by
  induction path generalizing v with
  | nil => rfl
  | cons step path ih =>
      rw [List.cons_append, at?, at?, Option.bind_assoc]
      exact congrArg _ (funext fun _ => ih)

theorem exists_obj_of_at? (found : at? (.field name :: path) v = some u) :
    ∃ fields, v = .obj fields := by
  obtain ⟨_, held, -⟩ := Option.bind_eq_some_iff.mp found
  cases v with
  | obj fields => exact ⟨fields, rfl⟩
  | _ => cases held

theorem exists_of_lookup {x : Option α} (decoded : fieldOf fields name decode = .ok x)
    (found : fields.lookup name = some v) : ∃ y, x = some y ∧ decode v = .ok y := by
  rw [fieldOf, found] at decoded
  cases result : decode v with
  | error e => simp [result, Except.map] at decoded
  | ok y => exact ⟨y, by simpa [result, Except.map] using decoded.symm, rfl⟩

theorem exists_of_getElem?_decodeItems {xs : List α} (decoded : decodeItems decode items = .ok xs)
    (found : items[i]? = some v) : ∃ x, xs[i]? = some x ∧ decode v = .ok x := by
  induction items generalizing xs i with
  | nil => cases found
  | cons item rest ih =>
      obtain ⟨x, first, decoded⟩ := bind_eq_ok.mp decoded
      obtain ⟨others, all, decoded⟩ := bind_eq_ok.mp decoded
      cases decoded
      cases i with
      | zero =>
          cases found
          exact ⟨x, rfl, first⟩
      | succ i =>
          obtain ⟨y, place, item⟩ := ih all found
          exact ⟨y, place, item⟩

theorem exists_of_listField {xs : Option (List α)}
    (decoded : fieldOf fields name (decodeList decode) = .ok xs)
    (found : at? [.field name, .item i] (.obj fields) = some v) :
    ∃ x, (xs.getD [])[i]? = some x ∧ decode v = .ok x := by
  obtain ⟨list, held, found⟩ := Option.bind_eq_some_iff.mp found
  obtain ⟨_, item, same⟩ := Option.bind_eq_some_iff.mp found
  cases same
  cases list with
  | arr items =>
      obtain ⟨_, rfl, all⟩ := exists_of_lookup decoded held
      exact exists_of_getElem?_decodeItems all item
  | _ => cases item

theorem Types.exists_enum {types : Types} (decoded : Types.decode v = .ok types)
    (found : at? [.field "enums", .item i] v = some u) :
    ∃ enum, types.enums[i]? = some enum ∧ EnumType.decode u = .ok enum := by
  obtain ⟨fields, rfl⟩ := exists_obj_of_at? found
  obtain ⟨_, enums, decoded⟩ := bind_eq_ok.mp decoded
  obtain ⟨_, -, decoded⟩ := bind_eq_ok.mp decoded
  obtain ⟨_, -, decoded⟩ := bind_eq_ok.mp decoded
  obtain ⟨_, -, decoded⟩ := bind_eq_ok.mp decoded
  cases decoded
  exact exists_of_listField enums found

theorem EnumType.exists_member {enum : EnumType} (decoded : EnumType.decode v = .ok enum)
    (found : at? [.field "values", .item j] v = some u) :
    ∃ member, enum.values[j]? = some member ∧ Member.decode u = .ok member := by
  obtain ⟨fields, rfl⟩ := exists_obj_of_at? found
  obtain ⟨_, -, decoded⟩ := bind_eq_ok.mp decoded
  obtain ⟨_, members, decoded⟩ := bind_eq_ok.mp decoded
  obtain ⟨_, -, decoded⟩ := bind_eq_ok.mp decoded
  cases decoded
  exact exists_of_listField members found

theorem Member.decode_value {member : Member} (decoded : Member.decode v = .ok member)
    (found : at? [.field "value"] v = some u) : Scalar.decode u = .ok member.value := by
  obtain ⟨fields, rfl⟩ := exists_obj_of_at? found
  obtain ⟨_, held, same⟩ := Option.bind_eq_some_iff.mp found
  cases same
  obtain ⟨_, -, decoded⟩ := bind_eq_ok.mp decoded
  obtain ⟨_, value, decoded⟩ := bind_eq_ok.mp decoded
  obtain ⟨_, -, decoded⟩ := bind_eq_ok.mp decoded
  obtain ⟨_, given, decoded⟩ := bind_eq_ok.mp decoded
  cases decoded
  obtain ⟨_, rfl, scalar⟩ := exists_of_lookup value held
  cases given
  exact scalar

theorem Types.exists_value {types : Types} (decoded : Types.decode v = .ok types)
    (found : at? (memberPath i j) v = some u) :
    ∃ value, types.value? i j = some value ∧ Scalar.decode u = .ok value := by
  have split : memberPath i j
      = [.field "enums", .item i] ++ ([.field "values", .item j] ++ [.field "value"]) := rfl
  rw [split, at?_append] at found
  obtain ⟨enumValue, enumFound, found⟩ := Option.bind_eq_some_iff.mp found
  rw [at?_append] at found
  obtain ⟨memberValue, memberFound, found⟩ := Option.bind_eq_some_iff.mp found
  obtain ⟨enum, enumPlace, enumDecoded⟩ := exists_enum decoded enumFound
  obtain ⟨member, memberPlace, memberDecoded⟩ := EnumType.exists_member enumDecoded memberFound
  refine ⟨member.value, ?_, Member.decode_value memberDecoded found⟩
  rw [value?, enumPlace, Option.bind_some, memberPlace, Option.map_some]

end Decoding

/-- What stands around an item stays when the item is modified. -/
theorem exists_around {α : Type} {xs : List α} {i : Nat} {x : α} (found : xs[i]? = some x) :
    ∃ before after, xs = before ++ x :: after ∧
      ∀ f : α → α, xs.modify i f = before ++ f x :: after := by
  induction xs generalizing i with
  | nil => cases found
  | cons y rest ih =>
      cases i with
      | zero =>
          cases found
          exact ⟨[], rest, rfl, fun _ => rfl⟩
      | succ i =>
          obtain ⟨before, after, rfl, modified⟩ := ih found
          refine ⟨y :: before, after, rfl, fun f => ?_⟩
          rw [List.modify_succ_cons, modified, List.cons_append]

namespace Types

variable {types : Types} {i j : Nat} {value : Scalar}

/-- A member with a value stands among others, and its enumeration among others. Setting the value
    changes nothing else. -/
theorem exists_members (held : types.value? i j = some value) :
    ∃ enums name members member members' enums', member.value = value ∧
      types.enums = enums ++ ⟨name, members ++ member :: members'⟩ :: enums' ∧
      ∀ s, types.setValue i j s = { types with enums :=
        enums ++ ⟨name, members ++ { member with value := s } :: members'⟩ :: enums' } := by
  obtain ⟨⟨name, values⟩, enumPlace, found⟩ := Option.bind_eq_some_iff.mp held
  obtain ⟨member, memberPlace, same⟩ := Option.map_eq_some_iff.mp found
  obtain ⟨enums, enums', listed, modified⟩ := exists_around enumPlace
  obtain ⟨members, members', rfl, modified'⟩ := exists_around memberPlace
  refine ⟨enums, name, members, member, members', enums', same, listed, fun s => ?_⟩
  rw [setValue, modified]
  simp only [modified']

theorem setValue_self (held : types.value? i j = some value) :
    types.setValue i j value = types := by
  obtain ⟨enums, name, members, member, members', enums', rfl, listed, set⟩ := exists_members held
  rw [set, ← listed]

end Types

/-- A whole number that stands in the place of a value is stored there, as far as it fits. -/
theorem ModelKind.exists_value_of_parse {content file : String} {v : Json} {types : Types}
    {i j : Nat} {n : Int} (spelled : Spells content v)
    (written : at? (memberPath i j) v = some (.int n))
    (read : ModelKind.types.parse .json file content = .ok types) :
    ∃ u value, types.value? i j = some value ∧ StoredAs n u ∧ Scalar.decode u = .ok value := by
  obtain ⟨w, parsed, read⟩ := bind_eq_ok.mp read
  have decoded : Types.decode w = .ok types := by
    rw [ModelKind.ofValue] at read
    split at read
    · exact mapError_eq_ok.mp read
    · cases read
  obtain ⟨u, found, stored⟩ := parse_kept spelled (mapError_eq_ok.mp parsed) _ _ written
  obtain ⟨value, held, scalar⟩ := Types.exists_value decoded found
  exact ⟨u, value, held, stored, scalar⟩

end ClientGen
