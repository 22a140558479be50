import ClientGen.Proofs.Text.Case

/-! # Tables of letter case

A table maps some characters to others, one by one or range by range. What a character becomes stays
as it is under the same table if nothing that the table maps to is mapped by it. Both are thousands
of code points, so they are compared as the bits of two numbers.
-/

namespace ClientGen.Text

variable {expansions : List (Nat × List Nat)} {ranges : List CaseRange} {range : CaseRange}
  {code n : Nat} {ns ms : List Nat} {c d : Char}

/-- A set of numbers as the bits of one number. -/
def bitSet (ns : List Nat) : Nat :=
  ns.foldr (fun n set => set ||| 1 <<< n) 0

theorem testBit_bitSet : (bitSet ns).testBit n = true ↔ n ∈ ns := by
  induction ns with
  | nil => simp [bitSet]
  | cons m ns ih =>
      rw [bitSet, List.foldr_cons, ← bitSet, Nat.testBit_or, Bool.or_eq_true, ih,
        Nat.one_shiftLeft, Nat.testBit_two_pow, decide_eq_true_eq, List.mem_cons, or_comm, eq_comm]

theorem not_mem_of_bitSet (disjoint : bitSet ns &&& bitSet ms = 0) : ∀ n ∈ ns, n ∉ ms := by
  intro n left right
  have both := congrArg (Nat.testBit · n) disjoint
  rw [Nat.testBit_and, testBit_bitSet.mpr left, testBit_bitSet.mpr right, Nat.zero_testBit] at both
  cases both

/-- All code points that a range maps. -/
def CaseRange.codes (range : CaseRange) : List Nat :=
  List.range' range.first ((range.last - range.first) / range.step + 1) range.step

theorem CaseRange.mem_codes (covered : range.covers code = true) : code ∈ range.codes := by
  simp only [CaseRange.covers, Bool.and_eq_true, decide_eq_true_eq, beq_iff_eq] at covered
  obtain ⟨⟨least, most⟩, aligned⟩ := covered
  have parts := Nat.div_add_mod (code - range.first) range.step
  have inside : (code - range.first) / range.step ≤ (range.last - range.first) / range.step :=
    Nat.div_le_div_right (by omega)
  exact List.mem_range'.mpr ⟨_, Nat.lt_succ_of_le inside, by omega⟩

/-- The code points of the characters that a table maps. -/
def mappedCodes (expansions : List (Nat × List Nat)) (ranges : List CaseRange) : List Nat :=
  expansions.map (·.1) ++ ranges.flatMap CaseRange.codes

/-- The numbers that a table maps to. A number that is no code point stands for the null
    character. -/
def imageCodes (expansions : List (Nat × List Nat)) (ranges : List CaseRange) : List Nat :=
  0 :: expansions.flatMap (·.2) ++
    ranges.flatMap fun range => range.codes.map fun code : Nat => (code + range.shift).toNat

theorem convertChar_of_not_mem (unmapped : c.toNat ∉ mappedCodes expansions ranges) :
    convertChar expansions ranges c = [c] := by
  rw [mappedCodes, List.mem_append, not_or] at unmapped
  obtain ⟨unexpanded, uncovered⟩ := unmapped
  have kept : expansions.lookup c.toNat = none := by
    refine List.lookup_eq_none_iff.mpr fun entry mem => bne_iff_ne.mpr fun same => ?_
    exact unexpanded (List.mem_map.mpr ⟨entry, mem, same.symm⟩)
  have unshifted : ranges.find? (·.covers c.toNat) = none := by
    refine List.find?_eq_none.mpr fun range mem covered => ?_
    exact uncovered (List.mem_flatMap.mpr ⟨range, mem, CaseRange.mem_codes covered⟩)
  rw [convertChar, kept, shiftBy, unshifted]

/-- A character stays as it is, or becomes what its expansion or its range says. -/
theorem convertChar_cases (expansions : List (Nat × List Nat)) (ranges : List CaseRange)
    (c : Char) :
    convertChar expansions ranges c = [c] ∨
      (∃ codes, (c.toNat, codes) ∈ expansions ∧
        convertChar expansions ranges c = codes.map Char.ofNat) ∨
      ∃ range ∈ ranges, range.covers c.toNat = true ∧
        convertChar expansions ranges c = [Char.ofNat (c.toNat + range.shift).toNat] := by
  rw [convertChar]
  split
  · rename_i codes expanded
    obtain ⟨above, below, split, -⟩ := List.lookup_eq_some_iff.mp expanded
    refine .inr (.inl ⟨codes, ?_, rfl⟩)
    rw [split]
    exact List.mem_append_right _ List.mem_cons_self
  · rw [shiftBy]
    split
    · rename_i range found
      have covered : range.covers c.toNat = true := by simpa using List.find?_some found
      exact .inr (.inr ⟨range, List.mem_of_find?_eq_some found, covered, rfl⟩)
    · exact .inl rfl

theorem eq_self_or_mem_imageCodes (mem : d ∈ convertChar expansions ranges c) :
    convertChar expansions ranges c = [c] ∨ d.toNat ∈ imageCodes expansions ranges := by
  have image (n : Nat) (made : n ∈ imageCodes expansions ranges) :
      (Char.ofNat n).toNat ∈ imageCodes expansions ranges := by
    by_cases zero : (Char.ofNat n).toNat = 0
    · rw [zero]
      exact List.mem_cons_self
    · rwa [toNat_ofNat_of_ne_zero zero]
  obtain same | ⟨codes, expanded, becomes⟩ | ⟨range, listed, covered, becomes⟩ :=
    convertChar_cases expansions ranges c
  · exact .inl same
  · rw [becomes] at mem
    obtain ⟨code, inside, rfl⟩ := List.mem_map.mp mem
    refine .inr (image code (List.mem_append_left _ (List.mem_cons_of_mem _ ?_)))
    exact List.mem_flatMap.mpr ⟨_, expanded, inside⟩
  · rw [becomes, List.mem_singleton] at mem
    subst mem
    refine .inr (image _ (List.mem_append_right _ (List.mem_flatMap.mpr ⟨range, listed, ?_⟩)))
    exact List.mem_map.mpr ⟨_, CaseRange.mem_codes covered, rfl⟩

/-- A table under which no character vanishes, and what a character becomes stays as it is. -/
class Settles (expansions : List (Nat × List Nat)) (ranges : List CaseRange) : Prop where
  nonempty : ∀ entry ∈ expansions, entry.2 ≠ []
  unmapped : ∀ n ∈ imageCodes expansions ranges, n ∉ mappedCodes expansions ranges

namespace Settles

theorem convertChar_of_mem (h : Settles expansions ranges)
    (mem : d ∈ convertChar expansions ranges c) : convertChar expansions ranges d = [d] := by
  obtain same | made := eq_self_or_mem_imageCodes mem
  · rw [same, List.mem_singleton] at mem
    rw [mem, same]
  · exact convertChar_of_not_mem (h.unmapped _ made)

theorem convertChar_ne_nil (h : Settles expansions ranges) (c : Char) :
    convertChar expansions ranges c ≠ [] := by
  obtain same | ⟨codes, expanded, becomes⟩ | ⟨range, -, -, becomes⟩ :=
    convertChar_cases expansions ranges c
  · rw [same]
    exact List.cons_ne_nil c []
  · rw [becomes]
    exact mt List.map_eq_nil_iff.mp (h.nonempty _ expanded)
  · rw [becomes]
    exact List.cons_ne_nil _ []

end Settles

instance lowerTable_settles : Settles lowerExpansions lowerRanges where
  nonempty := by decide
  unmapped := not_mem_of_bitSet (by decide +kernel)

instance upperTable_settles : Settles upperExpansions upperRanges where
  nonempty := by decide +kernel
  unmapped := not_mem_of_bitSet (by decide +kernel)

end ClientGen.Text
