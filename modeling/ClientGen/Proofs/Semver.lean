import ClientGen.Proofs.Json.Fields
import ClientGen.Semver
import Mathlib.Data.List.TakeWhile

/-! # Characters of versions

Whatever is read of a version is letters, digits, dots, dashes and plus signs, and a version is read
to its end.
-/

namespace ClientGen.Semver

open Json (bind_eq_ok)

/-- Whether a character may stand in a version. -/
def isVersionChar (c : Char) : Bool :=
  c.isAlphanum || c = '.' || c = '-' || c = '+'

/-- What has been read in front of `rest` may stand in a version. -/
def Reads (cs rest : List Char) : Prop :=
  ∃ used, cs = used ++ rest ∧ ∀ c ∈ used, isVersionChar c = true

namespace Reads

variable {c : Char} {cs rest rest' : List Char}

theorem refl (cs : List Char) : Reads cs cs :=
  ⟨[], rfl, List.forall_mem_nil _⟩

theorem cons (stands : isVersionChar c = true) (h : Reads cs rest) : Reads (c :: cs) rest := by
  obtain ⟨used, rfl, all⟩ := h
  exact ⟨c :: used, rfl, List.forall_mem_cons.mpr ⟨stands, all⟩⟩

theorem trans (h : Reads cs rest) (h' : Reads rest rest') : Reads cs rest' := by
  obtain ⟨used, rfl, all⟩ := h
  obtain ⟨used', rfl, all'⟩ := h'
  exact ⟨used ++ used', (List.append_assoc _ _ _).symm, List.forall_mem_append.mpr ⟨all, all'⟩⟩

end Reads

variable {position : Position} {segment cs rest : List Char}

theorem readNumber_reads (h : readNumber position cs = .ok rest) : Reads cs rest := by
  have digits : ∀ c ∈ cs.takeWhile Char.isDigit, isVersionChar c = true := by
    intro c mem
    have digit : c.isDigit = true := List.mem_takeWhile_imp mem
    simp [isVersionChar, Char.isAlphanum, digit]
  have front : cs = cs.takeWhile Char.isDigit ++ cs.drop (cs.takeWhile Char.isDigit).length :=
    (List.prefix_iff_eq_append.mp (List.takeWhile_prefix _)).symm
  unfold readNumber at h
  simp only at h
  split at h
  · split at h <;> cases h
  · split at h
    · cases h
    · split at h
      · cases h
      · cases h
        exact ⟨_, front, digits⟩

theorem readDot_reads (h : readDot position cs = .ok rest) : Reads cs rest := by
  unfold readDot at h
  split at h
  · cases h
  · cases h
    exact .cons rfl (.refl _)
  · cases h

theorem readIdentifier_reads (h : readIdentifier position segment cs = .ok rest) :
    Reads cs rest := by
  induction cs generalizing segment with
  | nil =>
      obtain ⟨_, -, same⟩ := bind_eq_ok.mp h
      cases same
      exact .refl _
  | cons c cs ih =>
      rw [readIdentifier] at h
      split at h
      · rename_i inner
        refine .cons ?_ (ih h)
        simp only [isIdentifierChar, Bool.or_eq_true] at inner
        rcases inner with letter | dash
        · simp [isVersionChar, letter]
        · simp [isVersionChar, of_decide_eq_true dash]
      · obtain ⟨_, -, h⟩ := bind_eq_ok.mp h
        split at h
        · rename_i dot
          exact .cons (by simp [isVersionChar, dot]) (ih h)
        · cases h
          exact .refl _

/-- The end of a version, behind what is called `position`. -/
def readEnd (position : Position) : List Char → Except Fault Unit
  | [] => .ok ()
  | c :: _ => .error (.unexpectedAfter position c)

/-- Build metadata or nothing, and the end. -/
def readBuild (position : Position) (cs : List Char) : Except Fault Unit :=
  match cs with
  | '+' :: rest => readIdentifier .build [] rest >>= readEnd .build
  | _ => readEnd position cs

theorem readEnd_reads (h : readEnd position cs = .ok ()) : Reads cs [] := by
  cases cs with
  | nil => exact .refl _
  | cons c cs => cases h

theorem readBuild_reads (h : readBuild position cs = .ok ()) : Reads cs [] := by
  unfold readBuild at h
  split at h
  · obtain ⟨_, build, ending⟩ := bind_eq_ok.mp h
    exact .cons rfl ((readIdentifier_reads build).trans (readEnd_reads ending))
  · exact readEnd_reads h

theorem readSuffix_reads (h : readSuffix cs = .ok ()) : Reads cs [] := by
  unfold readSuffix at h
  split at h
  · obtain ⟨_, pre, build⟩ := bind_eq_ok.mp h
    have rest : readBuild .pre _ = .ok () := build
    exact .cons rfl ((readIdentifier_reads pre).trans (readBuild_reads rest))
  · have rest : readBuild .patch cs = .ok () := h
    exact readBuild_reads rest

theorem isVersionChar_of_check {version : String} (valid : check version = .ok ()) :
    ∀ c ∈ version.toList, isVersionChar c = true := by
  unfold check at valid
  split at valid
  · cases valid
  · obtain ⟨_, major, valid⟩ := bind_eq_ok.mp valid
    obtain ⟨_, dot, valid⟩ := bind_eq_ok.mp valid
    obtain ⟨_, minor, valid⟩ := bind_eq_ok.mp valid
    obtain ⟨_, dot', valid⟩ := bind_eq_ok.mp valid
    obtain ⟨_, patch, suffix⟩ := bind_eq_ok.mp valid
    obtain ⟨used, same, all⟩ := (readNumber_reads major).trans <| (readDot_reads dot).trans <|
      (readNumber_reads minor).trans <| (readDot_reads dot').trans <|
      (readNumber_reads patch).trans <| readSuffix_reads suffix
    rw [same, List.append_nil]
    exact all

end ClientGen.Semver
