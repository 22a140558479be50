import ClientGen.Naming
import ClientGen.Proofs.Text.Case

/-! # Naming conventions

Names that follow one convention are turned into different identifiers, whatever the convention of
the identifiers is. Names of different conventions need not be.
-/

namespace ClientGen.Naming

/-- How the words of a name are told apart: by capitals at the start of each, by capitals at the
    start of each but the first, or by underscores. -/
inductive Style where
  | pascal | camel | snake

def Style.starts : Style → Char → Bool
  | .pascal, c => c.isUpper
  | .camel, c | .snake, c => c.isLower

def Style.continues : Style → Char → Bool
  | .pascal, c | .camel, c => c.isAlphanum
  | .snake, c => c.isLower || c.isDigit || c == '_'

/-- A name that follows a convention. There is no underscore at its end. -/
inductive Style.Follows (style : Style) : String → Prop
  | intro {c : Char} {cs : List Char} (start : style.starts c = true)
      (rest : ∀ d ∈ cs, style.continues d = true) (ending : cs.getLast? ≠ some '_') :
      style.Follows (String.ofList (c :: cs))

variable {style : Style} {c d : Char} {cs ds : List Char} {a b : String}

theorem Style.follows_ofList
    (h : (style.starts c && cs.all style.continues && cs.getLast? != some '_') = true) :
    style.Follows (String.ofList (c :: cs)) := by
  rw [Bool.and_eq_true, Bool.and_eq_true, bne_iff_ne] at h
  exact .intro h.1.1 (List.all_eq_true.mp h.1.2) h.2

theorem ascii_forall {P : Char → Prop} (h : ∀ n ∈ List.range 128, P (Char.ofNat n))
    (ascii : c.toNat < 128) : P c := by
  have known := h c.toNat (List.mem_range.mpr ascii)
  rwa [Char.ofNat_toNat] at known

theorem ascii_of_isUpper (h : c.isUpper = true) : c.toNat < 128 := by
  have bounds : 'A'.val ≤ c.val ∧ c.val ≤ 'Z'.val := of_decide_eq_true h
  exact Nat.lt_of_le_of_lt (UInt32.le_iff_toNat_le.mp bounds.2) (by decide)

theorem ascii_of_isLower (h : c.isLower = true) : c.toNat < 128 := by
  have small : c.val ≤ 'z'.val := of_decide_eq_true (Bool.and_eq_true_iff.mp h).2
  exact Nat.lt_of_le_of_lt (UInt32.le_iff_toNat_le.mp small) (by decide)

theorem ascii_of_isDigit (h : c.isDigit = true) : c.toNat < 128 := by
  have small : c.val ≤ '9'.val := of_decide_eq_true (Bool.and_eq_true_iff.mp h).2
  exact Nat.lt_of_le_of_lt (UInt32.le_iff_toNat_le.mp small) (by decide)

theorem Style.ascii_of_starts (h : style.starts c = true) : c.toNat < 128 := by
  cases style with
  | pascal => exact ascii_of_isUpper h
  | camel | snake => exact ascii_of_isLower h

theorem Style.ascii_of_continues (h : style.continues c = true) : c.toNat < 128 := by
  cases style with
  | pascal | camel =>
      have alphanumeric : ((c.isUpper || c.isLower) || c.isDigit) = true := h
      simp only [Bool.or_eq_true] at alphanumeric
      obtain (upper | lower) | digit := alphanumeric
      · exact ascii_of_isUpper upper
      · exact ascii_of_isLower lower
      · exact ascii_of_isDigit digit
  | snake =>
      simp only [Style.continues, Bool.or_eq_true, beq_iff_eq] at h
      obtain (lower | digit) | rfl := h
      · exact ascii_of_isLower lower
      · exact ascii_of_isDigit digit
      · decide

/-- Capitals and small letters are paired, and other characters have no other case. -/
def LetterCase (c : Char) : Prop :=
  (c.isUpper = true → c.toLower.toUpper = c ∧ c.toLower.isLower = true ∧ c.isLower = false) ∧
    (c.isUpper = false → c.toLower = c) ∧
    (c.isLower = true → c.toUpper.toLower = c ∧ c.toUpper.isUpper = true ∧ c.isUpper = false) ∧
    (c.isLower = false → c.toUpper = c)

instance : DecidablePred LetterCase := fun _ =>
  instDecidableAnd

theorem letterCase_of_ascii (ascii : c.toNat < 128) : LetterCase c :=
  ascii_forall (P := LetterCase) (by decide +kernel) ascii

theorem toUpper_toLower (h : c.isUpper = true) : c.toLower.toUpper = c :=
  ((letterCase_of_ascii (ascii_of_isUpper h)).1 h).1

theorem isLower_toLower (h : c.isUpper = true) : c.toLower.isLower = true :=
  ((letterCase_of_ascii (ascii_of_isUpper h)).1 h).2.1

theorem isLower_eq_false (h : c.isUpper = true) : c.isLower = false :=
  ((letterCase_of_ascii (ascii_of_isUpper h)).1 h).2.2

theorem toLower_eq_self (ascii : c.toNat < 128) (h : c.isUpper = false) : c.toLower = c :=
  (letterCase_of_ascii ascii).2.1 h

theorem toLower_toUpper (h : c.isLower = true) : c.toUpper.toLower = c :=
  ((letterCase_of_ascii (ascii_of_isLower h)).2.2.1 h).1

theorem isUpper_toUpper (h : c.isLower = true) : c.toUpper.isUpper = true :=
  ((letterCase_of_ascii (ascii_of_isLower h)).2.2.1 h).2.1

theorem isUpper_eq_false (h : c.isLower = true) : c.isUpper = false :=
  ((letterCase_of_ascii (ascii_of_isLower h)).2.2.1 h).2.2

theorem toUpper_eq_self (ascii : c.toNat < 128) (h : c.isLower = false) : c.toUpper = c :=
  (letterCase_of_ascii ascii).2.2.2 h

theorem isUpper_eq_false_of_lowerChar (small : Text.lowerChar c = [c]) : c.isUpper = false := by
  refine Bool.eq_false_iff.mpr fun upper => ?_
  have ascii := ascii_of_isUpper upper
  rw [Text.lowerChar_ascii ascii, List.cons.injEq] at small
  have lower := isUpper_eq_false (isLower_toLower upper)
  rw [small.1, upper] at lower
  cases lower

theorem Style.toLower_inj (hc : style.starts c = true) (hd : style.starts d = true)
    (same : c.toLower = d.toLower) : c = d := by
  cases style with
  | pascal => rw [← toUpper_toLower hc, ← toUpper_toLower hd, same]
  | camel | snake =>
      rwa [toLower_eq_self (ascii_of_isLower hc) (isUpper_eq_false hc),
        toLower_eq_self (ascii_of_isLower hd) (isUpper_eq_false hd)] at same

theorem Style.toUpper_inj (hc : style.starts c = true) (hd : style.starts d = true)
    (same : c.toUpper = d.toUpper) : c = d := by
  cases style with
  | pascal =>
      rwa [toUpper_eq_self (ascii_of_isUpper hc) (isLower_eq_false hc),
        toUpper_eq_self (ascii_of_isUpper hd) (isLower_eq_false hd)] at same
  | camel | snake => rw [← toLower_toUpper hc, ← toLower_toUpper hd, same]

theorem upperCamel_ofList (ascii : c.toNat < 128) :
    upperCamel (String.ofList (c :: cs)) = String.ofList (c.toUpper :: cs) := by
  simp only [upperCamel, String.toList_ofList, Text.upperChar_ascii ascii, List.singleton_append]

theorem lowerCamel_ofList (ascii : c.toNat < 128) :
    lowerCamel (String.ofList (c :: cs)) = String.ofList (c.toLower :: cs) := by
  simp only [lowerCamel, String.toList_ofList, Text.lowerChar_ascii ascii, List.singleton_append]

theorem Style.upperCamel_ofList (start : style.starts c = true) :
    upperCamel (String.ofList (c :: cs)) = String.ofList (c.toUpper :: cs) :=
  Naming.upperCamel_ofList (style.ascii_of_starts start)

theorem Style.lowerCamel_ofList (start : style.starts c = true) :
    lowerCamel (String.ofList (c :: cs)) = String.ofList (c.toLower :: cs) :=
  Naming.lowerCamel_ofList (style.ascii_of_starts start)

theorem upperCamel_inj (ha : style.Follows a) (hb : style.Follows b)
    (same : upperCamel a = upperCamel b) : a = b := by
  cases ha with
  | @intro c cs start =>
  cases hb with
  | @intro d ds start' =>
  rw [style.upperCamel_ofList start, style.upperCamel_ofList start', String.ofList_inj] at same
  obtain ⟨first, rest⟩ := List.cons.inj same
  rw [style.toUpper_inj start start' first, rest]

theorem lowerCamel_inj (ha : style.Follows a) (hb : style.Follows b)
    (same : lowerCamel a = lowerCamel b) : a = b := by
  cases ha with
  | @intro c cs start =>
  cases hb with
  | @intro d ds start' =>
  rw [style.lowerCamel_ofList start, style.lowerCamel_ofList start', String.ofList_inj] at same
  obtain ⟨first, rest⟩ := List.cons.inj same
  rw [style.toLower_inj start start' first, rest]

/-- Put a capital for every underscore and the letter behind it. -/
def joinWords : List Char → List Char
  | '_' :: c :: cs => c.toUpper :: joinWords cs
  | c :: cs => c :: joinWords cs
  | [] => []

theorem joinWords_cons (other : c ≠ '_') : joinWords (c :: cs) = c :: joinWords cs := by
  rw [joinWords]
  exact fun _ _ h => absurd h other

theorem markCapitals_cons :
    markCapitals (c :: cs) = (if c.isUpper then ['_', c] else [c]) ++ markCapitals cs :=
  List.flatMap_cons

theorem mem_of_mem_markCapitals (mem : c ∈ markCapitals cs) : c = '_' ∨ c ∈ cs := by
  obtain ⟨d, there, mem⟩ := List.mem_flatMap.mp mem
  split at mem
  · rw [List.mem_cons, List.mem_singleton] at mem
    exact mem.imp_right fun (same : c = d) => same ▸ there
  · exact .inr (List.mem_singleton.mp mem ▸ there)

/-- The words of a name without underscores can be joined again. -/
theorem joinWords_markCapitals (alphanumeric : ∀ c ∈ cs, c.isAlphanum = true) :
    joinWords ((markCapitals cs).map Char.toLower) = cs := by
  induction cs with
  | nil => rfl
  | cons c cs ih =>
      obtain ⟨first, others⟩ := List.forall_mem_cons.mp alphanumeric
      rw [markCapitals_cons]
      cases upper : c.isUpper with
      | true => simp [joinWords, toUpper_toLower upper, ih others]
      | false =>
          have ascii := Style.pascal.ascii_of_continues first
          have letter : c ≠ '_' := by
            rintro rfl
            exact absurd first (by decide)
          simp [toLower_eq_self ascii upper, joinWords_cons letter, ih others]

theorem markCapitals_eq_self (small : ∀ c ∈ cs, c.isUpper = false) : markCapitals cs = cs := by
  induction cs with
  | nil => rfl
  | cons c cs ih =>
      obtain ⟨first, others⟩ := List.forall_mem_cons.mp small
      rw [markCapitals_cons, first, ih others, if_neg Bool.false_ne_true, List.singleton_append]

theorem map_toLower_markCapitals (ascii : Text.Ascii cs)
    (small : ∀ c ∈ cs, c.isUpper = false) : (markCapitals cs).map Char.toLower = cs := by
  rw [markCapitals_eq_self small]
  exact (List.map_congr_left fun c mem => toLower_eq_self (ascii c mem) (small c mem)).trans
    (List.map_id cs)

theorem snakeCase_ofList (ascii : Text.Ascii (c :: cs)) :
    snakeCase (String.ofList (c :: cs))
      = String.ofList (c.toLower :: (markCapitals cs).map Char.toLower) := by
  obtain ⟨first, others⟩ := List.forall_mem_cons.mp ascii
  have all : Text.Ascii (c :: markCapitals cs) := by
    refine List.forall_mem_cons.mpr ⟨first, fun d mem => ?_⟩
    obtain rfl | mem := mem_of_mem_markCapitals mem
    · decide
    · exact others d mem
  simp only [snakeCase, String.toList_ofList, Text.lowercase, Text.lowercaseAfter_ascii all,
    List.map_cons]

theorem Style.snakeCase_ofList (start : style.starts c = true)
    (rest : ∀ d ∈ cs, style.continues d = true) :
    snakeCase (String.ofList (c :: cs))
      = String.ofList (c.toLower :: (markCapitals cs).map Char.toLower) :=
  Naming.snakeCase_ofList (List.forall_mem_cons.mpr
    ⟨style.ascii_of_starts start, fun d mem => style.ascii_of_continues (rest d mem)⟩)

theorem Style.markCapitals_inj (hc : ∀ d ∈ cs, style.continues d = true)
    (hd : ∀ d ∈ ds, style.continues d = true)
    (same : (markCapitals cs).map Char.toLower = (markCapitals ds).map Char.toLower) : cs = ds := by
  cases style with
  | pascal | camel =>
      rw [← joinWords_markCapitals hc, ← joinWords_markCapitals hd, same]
  | snake =>
      have small (d : Char) (h : Style.snake.continues d = true) : d.isUpper = false :=
        ascii_forall (P := fun d => Style.snake.continues d = true → d.isUpper = false)
          (by decide +kernel) (Style.snake.ascii_of_continues h) h
      rwa [map_toLower_markCapitals (fun d mem => Style.snake.ascii_of_continues (hc d mem))
          fun d mem => small d (hc d mem),
        map_toLower_markCapitals (fun d mem => Style.snake.ascii_of_continues (hd d mem))
          fun d mem => small d (hd d mem)] at same

theorem snakeCase_inj (ha : style.Follows a) (hb : style.Follows b)
    (same : snakeCase a = snakeCase b) : a = b := by
  cases ha with
  | @intro c cs start rest =>
  cases hb with
  | @intro d ds start' rest' =>
  rw [style.snakeCase_ofList start rest, style.snakeCase_ofList start' rest',
    String.ofList_inj] at same
  obtain ⟨first, others⟩ := List.cons.inj same
  rw [style.toLower_inj start start' first, style.markCapitals_inj rest rest' others]

/-- An identifier without a hash and without an underscore at its end. -/
structure Plain (name : String) : Prop where
  noHash : '#' ∉ name.toList
  ending : name.toList.getLast? ≠ some '_'

theorem getLast?_markCapitals : (markCapitals cs).getLast? = cs.getLast? := by
  obtain rfl | ⟨init, c, rfl⟩ := List.eq_nil_or_concat cs
  · rfl
  · rw [List.concat_eq_append, markCapitals, List.flatMap_append, List.flatMap_singleton]
    cases c.isUpper <;> simp

/-- A letter before characters of a name, and then what may become of them in lower case. -/
theorem plain_ofList (hash : c ≠ '#') (underscore : c ≠ '_') (rest : '#' ∉ cs)
    (ending : cs.getLast? ≠ some '_') : Plain (String.ofList (c :: cs)) where
  noHash := by
    rw [String.toList_ofList]
    exact List.not_mem_cons_of_ne_of_not_mem hash.symm rest
  ending := by
    rw [String.toList_ofList, List.getLast?_cons]
    cases last : cs.getLast? with
    | none => simpa using underscore
    | some d => simpa [last] using ending

theorem Style.isLower_toLower (start : style.starts c = true) : c.toLower.isLower = true := by
  cases style with
  | pascal => exact Naming.isLower_toLower start
  | camel | snake => rwa [toLower_eq_self (ascii_of_isLower start) (isUpper_eq_false start)]

theorem ne_of_isLower (small : c.isLower = true) : c ≠ '#' ∧ c ≠ '_' := by
  constructor <;> rintro rfl <;> exact absurd small (by decide)

theorem Style.letter_of_starts (start : style.starts c = true) :
    c.toLower ≠ '#' ∧ c.toLower ≠ '_' :=
  ne_of_isLower (style.isLower_toLower start)

theorem Style.not_continues_hash : ¬style.continues '#' = true := by
  cases style <;> decide

theorem Style.noHash_of_continues (rest : ∀ d ∈ cs, style.continues d = true) : '#' ∉ cs :=
  fun mem => style.not_continues_hash (rest '#' mem)

theorem Style.Follows.plain_lowerCamel (h : style.Follows a) : Plain (lowerCamel a) := by
  cases h with
  | @intro c cs start rest ending =>
      rw [style.lowerCamel_ofList start]
      obtain ⟨hash, underscore⟩ := style.letter_of_starts start
      exact plain_ofList hash underscore (style.noHash_of_continues rest) ending

theorem Style.Follows.plain_snakeCase (h : style.Follows a) : Plain (snakeCase a) := by
  cases h with
  | @intro c cs start rest ending =>
      rw [style.snakeCase_ofList start rest]
      obtain ⟨hash, underscore⟩ := style.letter_of_starts start
      have kept (d : Char) (h : style.continues d = true) :
          d.toLower ≠ '#' ∧ (d.toLower = '_' → d = '_') := by
        cases upper : d.isUpper with
        | true =>
            obtain ⟨hash, underscore⟩ := ne_of_isLower (Naming.isLower_toLower upper)
            exact ⟨hash, fun same => absurd same underscore⟩
        | false =>
            rw [toLower_eq_self (style.ascii_of_continues h) upper]
            exact ⟨fun same => style.not_continues_hash (same ▸ h), id⟩
      refine plain_ofList hash underscore (fun mem => ?_) fun last => ?_
      · obtain ⟨d, mem, same⟩ := List.mem_map.mp mem
        obtain rfl | mem := mem_of_mem_markCapitals mem
        · exact absurd same (by decide)
        · exact (kept d (rest d mem)).1 same
      · rw [List.getLast?_map, getLast?_markCapitals] at last
        obtain ⟨d, last, same⟩ := Option.map_eq_some_iff.mp last
        have mem := List.mem_of_getLast? last
        exact ending ((kept d (rest d mem)).2 same ▸ last)

end ClientGen.Naming
