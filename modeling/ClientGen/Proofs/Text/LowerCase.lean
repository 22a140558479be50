import ClientGen.Proofs.Text.CaseTable

/-! # Texts in lower case

A text that has been taken to lower case stays as it is when that is done again: the table maps no
character to one that it maps further. The characters of ASCII in such a text come from letters, or
are characters of the text that it was made from.
-/

namespace ClientGen.Text

variable {c d : Char} {before cs : List Char} {s : String}

theorem lowerChar_of_mem_lowerChar (mem : d ∈ lowerChar c) : lowerChar d = [d] :=
  lowerTable_settles.convertChar_of_mem mem

theorem lowerChar_of_mem_lowercaseAfter (mem : d ∈ lowercaseAfter before cs) :
    lowerChar d = [d] := by
  induction cs generalizing before with
  | nil => cases mem
  | cons c cs ih =>
      rw [lowercaseAfter, List.mem_append] at mem
      obtain image | mem := mem
      · by_cases sigma : c = 'Σ'
        · rw [if_pos sigma, List.mem_singleton] at image
          split at image <;> subst image <;> decide
        · rw [if_neg sigma] at image
          exact lowerChar_of_mem_lowerChar image
      · exact ih mem

/-- A text of characters in lower case stays as it is. The capital sigma is none of them, so it
    makes no difference where in its word a sigma stands. -/
theorem lowercaseAfter_eq_self (small : ∀ c ∈ cs, lowerChar c = [c]) :
    lowercaseAfter before cs = cs := by
  have noSigma : 'Σ' ∉ cs := fun mem => absurd (small 'Σ' mem) (by decide)
  rw [lowercaseAfter_eq_map small noSigma, List.map_id']

theorem lowerChar_of_mem_lowercase (mem : d ∈ (lowercase s).toList) : lowerChar d = [d] := by
  rw [lowercase, String.toList_ofList] at mem
  exact lowerChar_of_mem_lowercaseAfter mem

theorem lowercase_eq_self (small : ∀ c ∈ s.toList, lowerChar c = [c]) : lowercase s = s := by
  rw [lowercase, lowercaseAfter_eq_self small, String.ofList_toList]

theorem lowercase_eq_empty_iff : lowercase s = "" ↔ s = "" := by
  constructor
  · intro empty
    rw [lowercase, String.ofList_eq_empty_iff] at empty
    cases chars : s.toList with
    | nil => exact String.toList_eq_nil_iff.mp chars
    | cons c cs =>
        rw [chars, lowercaseAfter, List.append_eq_nil_iff] at empty
        have image := empty.1
        split at image
        · cases image
        · obtain single | double := lowerChar_cases c
          · cases single.symm.trans image
          · cases double.symm.trans image
  · rintro rfl
    rfl

/-- A character of ASCII that no other character becomes is in a text in lower case only if it is in
    the text. -/
theorem mem_of_mem_lowercaseAfter (ascii : d.toNat < 128) (nonzero : d.toNat ≠ 0)
    (lone : lowerSources d = [d.toNat]) (mem : d ∈ lowercaseAfter before cs) : d ∈ cs := by
  induction cs generalizing before with
  | nil => cases mem
  | cons c cs ih =>
      rw [lowercaseAfter, List.mem_append] at mem
      obtain image | mem := mem
      · refine List.mem_cons.mpr (.inl ?_)
        split at image
        · rw [List.mem_singleton] at image
          split at image <;> rw [image] at ascii <;> exact absurd ascii (by decide)
        · obtain single | double := lowerChar_cases c
          · have lowered : lowerChar c = [d] := by
              rw [single, List.mem_singleton] at image
              rw [single, image]
            have source := toNat_mem_lowerSources nonzero lowered
            rw [lone, List.mem_singleton] at source
            exact (Char.toNat_inj.mp source).symm
          · simp only [double, List.mem_cons, List.not_mem_nil, or_false] at image
            obtain rfl | rfl := image
            · exact absurd lone (by decide)
            · exact absurd ascii (by decide)
      · exact List.mem_cons_of_mem _ (ih mem)

theorem mem_of_mem_lowercase (ascii : d.toNat < 128) (nonzero : d.toNat ≠ 0)
    (lone : lowerSources d = [d.toNat]) (mem : d ∈ (lowercase s).toList) : d ∈ s.toList := by
  rw [lowercase, String.toList_ofList] at mem
  exact mem_of_mem_lowercaseAfter ascii nonzero lone mem

end ClientGen.Text
