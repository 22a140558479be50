import ClientGen.Text.Case

/-! # Letter case

The characters of ASCII have their usual case, and a text of them is converted character by
character. The other way around, what a character is the lower case of can be read off the table:
only finitely many characters have a given one as their lower case.
-/

namespace ClientGen.Text

variable {c d : Char} {before cs ds : List Char}

def Ascii (cs : List Char) : Prop :=
  ∀ c ∈ cs, c.toNat < 128

instance (cs : List Char) : Decidable (Ascii cs) :=
  List.decidableBAll _ cs

section Ascii

variable {expansions : List (Nat × List Nat)} {range : CaseRange} {ranges : List CaseRange}

theorem convertChar_ascii (expanded : ∀ entry ∈ expansions, 128 ≤ entry.1)
    (beyond : ∀ range ∈ ranges, 128 ≤ range.first) (ascii : c.toNat < 128) :
    convertChar expansions (range :: ranges) c =
      [if range.covers c.toNat then Char.ofNat (c.toNat + range.shift).toNat else c] := by
  have kept : expansions.lookup c.toNat = none := by
    refine List.lookup_eq_none_iff.mpr fun entry mem => ?_
    have := expanded entry mem
    exact bne_iff_ne.mpr (by omega)
  have uncovered : ranges.find? (·.covers c.toNat) = none := by
    refine List.find?_eq_none.mpr fun range mem => ?_
    have := beyond range mem
    simp only [CaseRange.covers, Bool.and_eq_true, decide_eq_true_eq]
    omega
  rw [convertChar, kept, shiftBy, List.find?_cons]
  cases range.covers c.toNat with
  | true => rfl
  | false => simp [uncovered]

theorem convertChar_eq_of_ascii {f : Char → Char}
    (expanded : ∀ entry ∈ expansions, 128 ≤ entry.1)
    (beyond : ∀ range ∈ ranges, 128 ≤ range.first)
    (single : ∀ n ∈ List.range 128,
      (if range.covers n then Char.ofNat ((n : Int) + range.shift).toNat else Char.ofNat n)
        = f (Char.ofNat n))
    (ascii : c.toNat < 128) : convertChar expansions (range :: ranges) c = [f c] := by
  have single := single c.toNat (List.mem_range.mpr ascii)
  rw [Char.ofNat_toNat] at single
  rw [convertChar_ascii expanded beyond ascii, single]

theorem lowerChar_ascii (ascii : c.toNat < 128) : lowerChar c = [c.toLower] :=
  convertChar_eq_of_ascii (by decide) (by decide +kernel) (by decide +kernel) ascii

theorem upperChar_ascii (ascii : c.toNat < 128) : upperChar c = [c.toUpper] :=
  convertChar_eq_of_ascii (by decide) (by decide +kernel) (by decide +kernel) ascii

end Ascii

theorem lowercaseAfter_eq_map {f : Char → Char} (single : ∀ c ∈ cs, lowerChar c = [f c])
    (noSigma : 'Σ' ∉ cs) : lowercaseAfter before cs = cs.map f := by
  induction cs generalizing before with
  | nil => rfl
  | cons c cs ih =>
      obtain ⟨first, others⟩ := List.forall_mem_cons.mp single
      have other : c ≠ 'Σ' := (List.ne_of_not_mem_cons noSigma).symm
      rw [lowercaseAfter, if_neg other, first, ih others (List.not_mem_of_not_mem_cons noSigma),
        List.map_cons, List.singleton_append]

theorem lowercaseAfter_ascii (ascii : Ascii cs) :
    lowercaseAfter before cs = cs.map Char.toLower :=
  lowercaseAfter_eq_map (fun c mem => lowerChar_ascii (ascii c mem))
    fun mem => absurd (ascii 'Σ' mem) (by decide)

/-- A character has one character as its lower case, with one exception. -/
theorem lowerChar_cases (c : Char) :
    lowerChar c = [shiftBy lowerRanges c] ∨ lowerChar c = ['i', '\u0307'] := by
  rw [lowerChar, convertChar]
  split
  · rename_i codes expanded
    obtain ⟨above, below, split, -⟩ := List.lookup_eq_some_iff.mp expanded
    have mem : (c.toNat, codes) ∈ lowerExpansions := by
      rw [split]
      exact List.mem_append_right _ List.mem_cons_self
    have codes := congrArg Prod.snd (List.mem_singleton.mp mem)
    exact .inr (congrArg (List.map Char.ofNat) codes)
  · exact .inl rfl

/-- A text whose lower case is in ASCII is converted character by character. -/
theorem lowercaseAfter_cons_eq (ascii : Ascii ds)
    (lowered : lowercaseAfter before (c :: cs) = ds) :
    ∃ d rest, ds = d :: rest ∧ lowerChar c = [d] ∧ lowercaseAfter (c :: before) cs = rest := by
  rw [lowercaseAfter] at lowered
  subst lowered
  have image := (List.forall_mem_append.mp ascii).1
  by_cases sigma : c = 'Σ'
  · rw [if_pos sigma, List.forall_mem_singleton] at image
    split at image <;> exact absurd image (by decide)
  · rw [if_neg sigma] at image ⊢
    obtain single | double := lowerChar_cases c
    · exact ⟨_, _, by rw [single, List.singleton_append], single, rfl⟩
    · rw [double] at image
      exact absurd (image '\u0307' (by decide)) (by decide)

/-- The code points of the characters that the table turns into a character, and its own. -/
def lowerSources (d : Char) : List Nat :=
  d.toNat :: lowerRanges.filterMap fun range =>
    let code := ((d.toNat : Int) - range.shift).toNat
    if range.covers code then some code else none

theorem toNat_ofNat_of_ne_zero {n : Nat} (nonzero : (Char.ofNat n).toNat ≠ 0) :
    (Char.ofNat n).toNat = n := by
  by_cases valid : n.isValidChar
  · have made : Char.ofNat n = Char.ofNatAux n valid := dif_pos valid
    rw [made]
    rfl
  · have made : Char.ofNat n = '\x00' := dif_neg valid
    rw [made] at nonzero
    exact absurd rfl nonzero

theorem toNat_mem_lowerSources (nonzero : d.toNat ≠ 0) (lowered : lowerChar c = [d]) :
    c.toNat ∈ lowerSources d := by
  have shifted : shiftBy lowerRanges c = d := by
    obtain single | double := lowerChar_cases c
    · exact (List.cons.inj (single.symm.trans lowered)).1
    · cases double.symm.trans lowered
  rw [shiftBy] at shifted
  split at shifted
  · rename_i range found
    have covered : range.covers c.toNat = true := by simpa using List.find?_some found
    have code : (c.toNat + range.shift).toNat = d.toNat := by
      rw [← shifted] at nonzero ⊢
      exact (toNat_ofNat_of_ne_zero nonzero).symm
    have back : ((d.toNat : Int) - range.shift).toNat = c.toNat := by omega
    refine List.mem_cons_of_mem _
      (List.mem_filterMap.mpr ⟨range, List.mem_of_find?_eq_some found, ?_⟩)
    simp only [back, covered, if_true]
  · rw [lowerSources, shifted]
    exact List.mem_cons_self

/-- Most letters are the lower case of themselves and of their capital only. -/
theorem eq_or_eq_toUpper (known : lowerSources d = [d.toNat, d.toUpper.toNat])
    (nonzero : d.toNat ≠ 0) (lowered : lowerChar c = [d]) : c = d ∨ c = d.toUpper := by
  have mem := toNat_mem_lowerSources nonzero lowered
  rw [known, List.mem_cons, List.mem_singleton] at mem
  exact mem.imp Char.toNat_inj.mp Char.toNat_inj.mp

end ClientGen.Text
