import ClientGen.Proofs.Naming.Conventions

/-! # Names behind identifiers

Which names become a given identifier, over all of Unicode. A letter of the identifier comes from
itself, or from its capital where the conversion makes it small; an underscore comes from itself or
stands before a capital.
-/

namespace ClientGen.Naming

variable {c d : Char} {before cs ds word : List Char} {a : String}

/-- A letter that is the lower case of itself and of its capital, and of no other character. -/
structure Simple (d : Char) : Prop where
  small : d.isLower = true
  sources : Text.lowerSources d = [d.toNat, d.toUpper.toNat]

/-- Words of such letters. -/
def SimpleWord (word : List Char) : Prop :=
  ∀ d ∈ word, Simple d

/-- Behind the capitals of ASCII, the Kelvin sign is the only character with a lower case in
    ASCII. -/
theorem lowerRanges_beyond : ∀ range ∈ Text.lowerRanges.tail,
    0 < range.first ∧ (128 ≤ range.first + range.shift ∨
      range.first = 8490 ∧ range.last = 8490 ∧ range.shift = -8383) := by
  decide +kernel

theorem lowerSources_of_ascii (ascii : d.toNat < 128) (other : d ≠ 'k') :
    Text.lowerSources d = d.toNat :: if d.isLower then [d.toUpper.toNat] else [] := by
  have capital := ascii_forall
    (P := fun d => (if Text.CaseRange.covers ⟨65, 90, 1, 32⟩ ((d.toNat : Int) - 32).toNat
        then some ((d.toNat : Int) - 32).toNat else none)
      = if d.isLower then some d.toUpper.toNat else none)
    (by decide +kernel) ascii
  have letters : Text.lowerRanges = ⟨65, 90, 1, 32⟩ :: Text.lowerRanges.tail := rfl
  rw [Text.lowerSources, letters, List.filterMap_cons, List.filterMap_eq_nil_iff.mpr]
  · dsimp only
    rw [capital]
    cases d.isLower <;> rfl
  · intro range mem
    have apart : d.toNat ≠ 107 := fun same => other (Char.toNat_inj.mp same)
    have uncovered : range.covers ((d.toNat : Int) - range.shift).toNat = false := by
      simp only [Text.CaseRange.covers, Bool.and_eq_false_iff, decide_eq_false_iff_not]
      have := lowerRanges_beyond range mem
      omega
    simp only [uncovered, Bool.false_eq_true, if_false]

/-- The small letters of ASCII are such letters, apart from the one that the Kelvin sign becomes
    too. -/
theorem simple_of_isLower (small : d.isLower = true) (other : d ≠ 'k') : Simple d where
  small := small
  sources := by rw [lowerSources_of_ascii (ascii_of_isLower small) other, if_pos small]

theorem simpleWord_of_all (letters : (word.all fun d => d.isLower && d != 'k') = true) :
    SimpleWord word := by
  intro d mem
  have letter := List.all_eq_true.mp letters d mem
  rw [Bool.and_eq_true, bne_iff_ne] at letter
  exact simple_of_isLower letter.1 letter.2

theorem SimpleWord.ascii (simple : SimpleWord word) : Text.Ascii word :=
  fun d mem => ascii_of_isLower (simple d mem).small

theorem Simple.toLower_eq_self (h : Simple d) : d.toLower = d :=
  Naming.toLower_eq_self (ascii_of_isLower h.small) (isUpper_eq_false h.small)

theorem Simple.eq_or_eq_toUpper (h : Simple d) (lowered : Text.lowerChar c = [d]) :
    c = d ∨ c = d.toUpper := by
  refine Text.eq_or_eq_toUpper h.sources (fun zero => ?_) lowered
  rw [Char.toNat_inj.mp (zero.trans (show 0 = '\x00'.toNat from rfl))] at h
  exact absurd h.small (by decide)

theorem Simple.ne_underscore (h : Simple d) : d ≠ '_' := by
  rintro rfl
  exact absurd h.small (by decide)

theorem lowerChar_underscore_iff : Text.lowerChar c = ['_'] ↔ c = '_' := by
  constructor
  · intro lowered
    have sources : Text.lowerSources '_' = ['_'.toNat] :=
      lowerSources_of_ascii (by decide) (by decide)
    have mem := Text.toNat_mem_lowerSources (by decide) lowered
    rw [sources, List.mem_singleton] at mem
    exact Char.toNat_inj.mp mem
  · rintro rfl
    exact Text.lowerChar_ascii (by decide)

theorem exists_of_lowerCamel_eq (ascii : Text.Ascii ds)
    (same : lowerCamel a = String.ofList (d :: ds)) :
    ∃ c, Text.lowerChar c = [d] ∧ a = String.ofList (c :: ds) := by
  rw [lowerCamel] at same
  split at same
  · cases String.ofList_inj.mp (String.ofList_nil.trans same)
  · rename_i c rest chars
    have image := String.ofList_inj.mp same
    obtain single | double := Text.lowerChar_cases c
    · rw [single, List.singleton_append, List.cons.injEq] at image
      obtain ⟨image, rfl⟩ := image
      exact ⟨c, image ▸ single, by rw [← chars, String.ofList_toList]⟩
    · rw [double, List.cons_append, List.cons.injEq] at image
      exact absurd (ascii '\u0307' (image.2 ▸ List.mem_cons_self)) (by decide)

theorem lowerCamel_eq_iff (first : Simple d) (ascii : Text.Ascii ds) :
    lowerCamel a = String.ofList (d :: ds) ↔
      a = String.ofList (d :: ds) ∨ a = String.ofList (d.toUpper :: ds) := by
  constructor
  · intro same
    obtain ⟨c, lowered, rfl⟩ := exists_of_lowerCamel_eq ascii same
    obtain rfl | rfl := first.eq_or_eq_toUpper lowered
    · exact .inl rfl
    · exact .inr rfl
  · rintro (rfl | rfl)
    · rw [lowerCamel_ofList (ascii_of_isLower first.small), first.toLower_eq_self]
    · rw [lowerCamel_ofList (ascii_of_isUpper (isUpper_toUpper first.small)),
        toLower_toUpper first.small]

theorem lowerCamel_eq_underscore_iff (ascii : Text.Ascii ds) :
    lowerCamel a = String.ofList ('_' :: ds) ↔ a = String.ofList ('_' :: ds) := by
  constructor
  · intro same
    obtain ⟨c, lowered, rfl⟩ := exists_of_lowerCamel_eq ascii same
    rw [lowerChar_underscore_iff.mp lowered]
  · rintro rfl
    exact lowerCamel_ofList (by decide)

/-- The characters that become the given ones when capitals are marked and made small. -/
def Becomes (cs ds : List Char) : Prop :=
  ∃ before, Text.lowercaseAfter before (markCapitals cs) = ds

/-- What becomes a first character is this character in some case, or a capital with a mark. -/
theorem Becomes.cases (ascii : Text.Ascii (d :: ds)) (h : Becomes cs (d :: ds)) :
    (∃ c rest, cs = c :: rest ∧ c.isUpper = false ∧ Text.lowerChar c = [d] ∧ Becomes rest ds) ∨
    (d = '_' ∧ ∃ c rest e es, cs = c :: rest ∧ c.isUpper = true ∧ ds = e :: es ∧
      Text.lowerChar c = [e] ∧ Becomes rest es) := by
  obtain ⟨before, h⟩ := h
  cases cs with
  | nil => cases h
  | cons c rest =>
      rw [markCapitals_cons] at h
      cases upper : c.isUpper with
      | false =>
          rw [upper] at h
          obtain ⟨e, es, same, lowered, others⟩ := Text.lowercaseAfter_cons_eq ascii h
          obtain ⟨rfl, rfl⟩ := List.cons.inj same
          exact .inl ⟨c, rest, rfl, upper, lowered, _, others⟩
      | true =>
          rw [upper] at h
          obtain ⟨e, es, same, mark, others⟩ := Text.lowercaseAfter_cons_eq ascii h
          obtain ⟨rfl, rfl⟩ := List.cons.inj same
          have underscore := (List.cons.inj (mark.symm.trans (lowerChar_underscore_iff.mpr rfl))).1
          obtain ⟨e, es, rfl, lowered, others⟩ :=
            Text.lowercaseAfter_cons_eq (List.forall_mem_cons.mp ascii).2 others
          exact .inr ⟨underscore, c, rest, e, es, rfl, upper, rfl, lowered, _, others⟩

theorem Becomes.eq_nil (h : Becomes cs []) : cs = [] := by
  obtain ⟨before, h⟩ := h
  cases cs with
  | nil => rfl
  | cons c rest =>
      rw [markCapitals_cons] at h
      cases upper : c.isUpper with
      | false | true =>
          rw [upper] at h
          obtain ⟨_, _, same, -⟩ := Text.lowercaseAfter_cons_eq (List.forall_mem_nil _) h
          cases same

theorem Becomes.of_word (simple : SimpleWord word) (ascii : Text.Ascii (word ++ ds))
    (h : Becomes cs (word ++ ds)) : ∃ rest, cs = word ++ rest ∧ Becomes rest ds := by
  induction word generalizing cs with
  | nil => exact ⟨cs, rfl, h⟩
  | cons d word ih =>
      obtain ⟨first, others⟩ := List.forall_mem_cons.mp simple
      obtain ⟨c, rest, rfl, upper, lowered, h⟩ | ⟨underscore, -⟩ := h.cases ascii
      · have same : c = d := by
          obtain same | rfl := first.eq_or_eq_toUpper lowered
          · exact same
          · rw [isUpper_toUpper first.small] at upper
            cases upper
        obtain ⟨others, rfl, left⟩ := ih others (List.forall_mem_cons.mp ascii).2 h
        exact ⟨others, by rw [same]; rfl, left⟩
      · exact absurd underscore first.ne_underscore

theorem eq_of_snakeCase_eq (ascii : Text.Ascii (d :: ds))
    (same : snakeCase a = String.ofList (d :: ds)) :
    ∃ c cs, a = String.ofList (c :: cs) ∧ Text.lowerChar c = [d] ∧ Becomes cs ds := by
  rw [snakeCase] at same
  split at same
  · cases String.ofList_inj.mp (String.ofList_nil.trans same)
  · rename_i c cs chars
    rw [Text.lowercase, String.toList_ofList, String.ofList_inj] at same
    obtain ⟨e, es, same, lowered, others⟩ := Text.lowercaseAfter_cons_eq ascii same
    obtain ⟨rfl, rfl⟩ := List.cons.inj same
    exact ⟨c, cs, by rw [← chars, String.ofList_toList], lowered, _, others⟩

theorem snakeCase_ofList_word (ascii : c.toNat < 128) (lowered : c.toLower = d)
    (simple : SimpleWord ds) : snakeCase (String.ofList (c :: ds)) = String.ofList (d :: ds) := by
  rw [snakeCase_ofList (List.forall_mem_cons.mpr ⟨ascii, simple.ascii⟩), lowered,
    map_toLower_markCapitals simple.ascii fun e mem => isUpper_eq_false (simple e mem).small]

theorem snakeCase_eq_word_iff (simple : SimpleWord (d :: ds)) :
    snakeCase a = String.ofList (d :: ds) ↔
      a = String.ofList (d :: ds) ∨ a = String.ofList (d.toUpper :: ds) := by
  obtain ⟨first, others⟩ : Simple d ∧ SimpleWord ds := List.forall_mem_cons.mp simple
  constructor
  · intro same
    obtain ⟨c, cs, rfl, lowered, h⟩ := eq_of_snakeCase_eq simple.ascii same
    rw [← List.append_nil ds] at h
    obtain ⟨rest, rfl, left⟩ := h.of_word others ((List.append_nil ds).symm ▸ others.ascii)
    rw [left.eq_nil, List.append_nil]
    obtain rfl | rfl := first.eq_or_eq_toUpper lowered
    · exact .inl rfl
    · exact .inr rfl
  · rintro (rfl | rfl)
    · exact snakeCase_ofList_word (ascii_of_isLower first.small) first.toLower_eq_self others
    · exact snakeCase_ofList_word (ascii_of_isUpper (isUpper_toUpper first.small))
        (toLower_toUpper first.small) others

theorem Becomes.of_underscore (ascii : Text.Ascii ds) (h : Becomes cs ('_' :: ds)) :
    (∃ rest, cs = '_' :: rest ∧ Becomes rest ds) ∨
    ∃ c rest e es, cs = c :: rest ∧ c.isUpper = true ∧ ds = e :: es ∧
      Text.lowerChar c = [e] ∧ Becomes rest es := by
  obtain ⟨c, rest, rfl, -, lowered, h⟩ | ⟨-, marked⟩ :=
    h.cases (List.forall_mem_cons.mpr ⟨by decide, ascii⟩)
  · exact .inl ⟨rest, by rw [lowerChar_underscore_iff.mp lowered], h⟩
  · exact .inr marked

theorem Becomes.eq_underscores {n : Nat} (h : Becomes cs (List.replicate n '_')) :
    cs = List.replicate n '_' := by
  induction n generalizing cs with
  | zero => exact h.eq_nil
  | succ n ih =>
      obtain ⟨rest, rfl, left⟩ | ⟨c, rest, e, es, -, upper, same, lowered, -⟩ :=
        h.of_underscore fun e mem => by rw [List.eq_of_mem_replicate mem]; decide
      · rw [ih left, List.replicate_succ]
      · have mem : e ∈ List.replicate n '_' := same ▸ List.mem_cons_self
        rw [List.eq_of_mem_replicate mem, lowerChar_underscore_iff] at lowered
        rw [lowered] at upper
        exact absurd upper (by decide)

/-- A capital behind the underscore would bring a second one. -/
theorem snakeCase_eq_underscore_iff (simple : SimpleWord ds) :
    snakeCase a = String.ofList ('_' :: ds) ↔ a = String.ofList ('_' :: ds) := by
  constructor
  · intro same
    obtain ⟨c, cs, rfl, lowered, h⟩ :=
      eq_of_snakeCase_eq (List.forall_mem_cons.mpr ⟨by decide, simple.ascii⟩) same
    rw [← List.append_nil ds] at h
    obtain ⟨rest, rfl, left⟩ := h.of_word simple ((List.append_nil ds).symm ▸ simple.ascii)
    rw [lowerChar_underscore_iff.mp lowered, left.eq_nil, List.append_nil]
  · rintro rfl
    exact snakeCase_ofList_word (by decide) (by decide) simple

theorem eq_of_snakeCase_eq_init (same : snakeCase a = "__init__") :
    a = "__init__" ∨ a = "_Init__" := by
  have same : snakeCase a = String.ofList ('_' :: '_' :: ['i', 'n', 'i', 't', '_', '_']) := same
  obtain ⟨c, cs, rfl, lowered, h⟩ := eq_of_snakeCase_eq (by decide) same
  have simple : SimpleWord ['i', 'n', 'i', 't'] := simpleWord_of_all (by decide)
  obtain ⟨first, others⟩ := List.forall_mem_cons.mp simple
  obtain rfl := lowerChar_underscore_iff.mp lowered
  obtain ⟨rest, rfl, word⟩ | ⟨c, rest, e, es, rfl, upper, split, lowered, word⟩ :=
    h.of_underscore (by decide)
  · have word : Becomes rest (['i', 'n', 'i', 't'] ++ List.replicate 2 '_') := word
    obtain ⟨rest, rfl, left⟩ := word.of_word simple (by decide)
    rw [left.eq_underscores]
    exact .inl rfl
  · obtain ⟨rfl, rfl⟩ := List.cons.inj split
    have word : Becomes rest (['n', 'i', 't'] ++ List.replicate 2 '_') := word
    obtain ⟨rest, rfl, left⟩ := word.of_word others (by decide)
    rw [left.eq_underscores]
    obtain rfl | rfl := first.eq_or_eq_toUpper lowered
    · exact absurd upper (by decide)
    · exact .inr rfl

theorem snakeCase_eq_init_iff : snakeCase a = "__init__" ↔ a = "__init__" ∨ a = "_Init__" := by
  have kept : Text.Ascii ['_', '_', 'i', 'n', 'i', 't', '_', '_'] := by decide
  have marked : Text.Ascii ['_', 'I', 'n', 'i', 't', '_', '_'] := by decide
  refine ⟨eq_of_snakeCase_eq_init, ?_⟩
  rintro (rfl | rfl)
  · exact snakeCase_ofList kept
  · exact snakeCase_ofList marked

end ClientGen.Naming
