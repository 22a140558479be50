import ClientGen.Sdk

/-! # Package names

What a name that passes the check looks like.
-/

namespace ClientGen.Sdk

variable {sdk : Sdk}

theorem check_eq_ok_iff :
    sdk.check = .ok () ↔
      sdk.name.toList.all Text.isBlank = false ∧ isPackageName sdk.packageName = true ∧
        Semver.check sdk.version = .ok () := by
  rw [check]
  cases sdk.name.toList.all Text.isBlank with
  | true => simp
  | false =>
      cases isPackageName sdk.packageName with
      | false => simp
      | true => cases Semver.check sdk.version <;> simp

theorem isPackageName_of_check (valid : sdk.check = .ok ()) :
    isPackageName sdk.packageName = true :=
  (check_eq_ok_iff.mp valid).2.1

theorem version_of_check (valid : sdk.check = .ok ()) : Semver.check sdk.version = .ok () :=
  (check_eq_ok_iff.mp valid).2.2

theorem slash_not_mem (valid : sdk.check = .ok ()) : '/' ∉ sdk.packageName.toList := by
  have usable := isPackageName_of_check valid
  simp only [isPackageName, Bool.and_eq_true, List.all_eq_true] at usable
  intro mem
  exact absurd (usable.2 '/' mem) (by decide)

theorem check_description (sdk : Sdk) (description : String) :
    { sdk with description }.check = sdk.check := rfl

theorem default_check : ({} : Sdk).check = .ok () := by rfl

end ClientGen.Sdk
