/-! # Runs of quotes

Three quotes in a row are more than three quotes: what stands before and behind a quote decides
whether it is one of three. At the front of a text it matters what is written for the characters
that follow, at the end how many quotes there are altogether.
-/

namespace ClientGen.Text

variable {c : Char} {cs : List Char}

/-- Quotes at the front of what is written are quotes at the front of the text. -/
def KeepsQuotes (write : List Char → List Char) : Prop :=
  ∀ cs ds, write cs = '"' :: ds → ∃ rest, cs = '"' :: rest ∧ ds = write rest

theorem KeepsQuotes.of_prefix {write : List Char → List Char} (h : KeepsQuotes write) {n : Nat}
    (found : List.replicate n '"' <+: write cs) : List.replicate n '"' <+: cs := by
  induction n generalizing cs with
  | zero => exact List.nil_prefix
  | succ n ih =>
      obtain ⟨rest, written⟩ := found
      obtain ⟨tail, rfl, same⟩ := h cs _ written.symm
      exact List.cons_prefix_cons.mpr ⟨rfl, ih ⟨rest, same⟩⟩

/-- A character makes three quotes only with two of the text. -/
theorem KeepsQuotes.of_triple {write : List Char → List Char} (h : KeepsQuotes write)
    (found : ['"', '"', '"'] <+: c :: write cs) : ['"', '"', '"'] <+: c :: cs := by
  obtain ⟨first, others⟩ := List.cons_prefix_cons.mp found
  have two : List.replicate 2 '"' <+: cs := h.of_prefix others
  exact List.cons_prefix_cons.mpr ⟨first, two⟩

theorem no_triple {c : Char} {rest : List Char}
    (h : ∀ rest' : List Char, c = '"' → rest = '"' :: '"' :: rest' → False) :
    ¬ ['"', '"', '"'] <+: c :: rest := by
  rintro ⟨rest', same⟩
  cases same
  exact h rest' rfl rfl

/-- How many quotes a text ends in. -/
def endQuotes (cs : List Char) : Nat :=
  (cs.reverse.takeWhile (· == '"')).length

/-- Whether the quotes at the end, if there are any, make whole triples. -/
def EndsInTriples (cs : List Char) : Prop :=
  endQuotes cs ≠ 0 ∧ endQuotes cs % 3 = 0

instance : Decidable (EndsInTriples cs) :=
  inferInstanceAs (Decidable (_ ∧ _))

theorem endQuotes_cons (c : Char) (cs : List Char) : endQuotes (c :: cs) =
    if endQuotes cs = cs.length then cs.length + (if c = '"' then 1 else 0)
    else endQuotes cs := by
  unfold endQuotes
  rw [List.reverse_cons, List.takeWhile_append, List.length_reverse]
  split
  · by_cases quote : c = '"' <;> simp [quote]
  · rfl

theorem endQuotes_of_ne (other : c ≠ '"') : endQuotes (c :: cs) = endQuotes cs := by
  rw [endQuotes_cons, if_neg other]
  split <;> omega

theorem endQuotes_le_length : endQuotes cs ≤ cs.length := by
  have shorter := (List.takeWhile_sublist (l := cs.reverse) (· == '"')).length_le
  rwa [List.length_reverse] at shorter

/-- A text that ends in as many quotes as it has characters has no other characters. -/
theorem eq_replicate_of_endQuotes (all : endQuotes cs = cs.length) :
    cs = List.replicate cs.length '"' := by
  have whole : cs.reverse.takeWhile (· == '"') = cs.reverse :=
    (List.takeWhile_sublist _).eq_of_length (all.trans List.length_reverse.symm)
  refine List.eq_replicate_iff.mpr ⟨rfl, fun c mem => ?_⟩
  rw [← List.mem_reverse, ← whole] at mem
  simpa using List.all_eq_true.mp List.all_takeWhile c mem

theorem endsInTriples_triple (more : cs ≠ []) :
    EndsInTriples ('"' :: '"' :: '"' :: cs) ↔ EndsInTriples cs := by
  have positive := List.length_pos_iff.mpr more
  have bound : endQuotes cs ≤ cs.length := endQuotes_le_length
  simp only [EndsInTriples, endQuotes_cons, List.length_cons, if_true]
  by_cases all : endQuotes cs = cs.length
  · simp only [all, if_true]
    omega
  · have first : endQuotes cs ≠ cs.length + 1 := by omega
    have second : endQuotes cs ≠ cs.length + 1 + 1 := by omega
    rw [if_neg all, if_neg first, if_neg second]

/-- A character does not complete a triple, unless it is the first of one. -/
theorem endsInTriples_cons (inner : c = '"' → cs ≠ [])
    (noTriple : ¬ ['"', '"', '"'] <+: c :: cs) : EndsInTriples (c :: cs) ↔ EndsInTriples cs := by
  by_cases quote : c = '"'
  · subst c
    by_cases all : endQuotes cs = cs.length
    · have positive := List.length_pos_iff.mpr (inner rfl)
      have few : cs.length < 2 := by
        refine Nat.lt_of_not_le fun two => noTriple (List.cons_prefix_cons.mpr ⟨rfl, ?_⟩)
        obtain ⟨n, length⟩ := Nat.exists_eq_add_of_le two
        rw [eq_replicate_of_endQuotes all, length, ← List.replicate_append_replicate]
        exact List.prefix_append _ _
      have one : cs.length = 1 := by omega
      simp only [EndsInTriples, endQuotes_cons, all, one]
      decide
    · rw [EndsInTriples, endQuotes_cons, if_neg all, EndsInTriples]
  · rw [EndsInTriples, endQuotes_of_ne quote, EndsInTriples]

end ClientGen.Text
