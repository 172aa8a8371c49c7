import ServerSymbols.Text.Case
import Mathlib

set_option autoImplicit false

/-
Letter case of ASCII characters. Each mapping leads to one ASCII character, every letter has both
cases, and all else stands for itself in either case.
-/
namespace ServerSymbols.Text

/-- What holds of the first 128 code points holds of every ASCII character. -/
theorem forall_ascii {p : Char → Prop} (each : ∀ code < 128, p (Char.ofNat code)) {c : Char}
    (ascii : c.toNat < 128) : p c := by
  rw [← Char.ofNat_toNat c]
  exact each c.toNat ascii

theorem toNat_lt_of_isAlphanum {c : Char} (plain : c.isAlphanum = true) : c.toNat < 128 := by
  simp only [Char.isAlphanum, Char.isAlpha, Char.isUpper, Char.isLower, Char.isDigit,
    Bool.or_eq_true, Bool.and_eq_true, decide_eq_true_eq, UInt32.le_iff_toNat_le, ge_iff_le,
    Char.toNat_val] at plain
  change ((65 ≤ c.toNat ∧ c.toNat ≤ 90) ∨ 97 ≤ c.toNat ∧ c.toNat ≤ 122) ∨
    48 ≤ c.toNat ∧ c.toNat ≤ 57 at plain
  omega

section Ascii

variable {c : Char} (ascii : c.toNat < 128)

include ascii

theorem toNat_toLower_lt : c.toLower.toNat < 128 :=
  forall_ascii (p := (·.toLower.toNat < 128)) (by decide +kernel) ascii

theorem toNat_toUpper_lt : c.toUpper.toNat < 128 :=
  forall_ascii (p := (·.toUpper.toNat < 128)) (by decide +kernel) ascii

theorem isUppercase_toLower : isUppercase c.toLower = false := by
  rw [isUppercase, if_pos (toNat_toLower_lt ascii), Char.isUpper_toLower_eq_false]

theorem isLowercase_toLower : isLowercase c.toLower = c.isAlpha := by
  rw [isLowercase, if_pos (toNat_toLower_lt ascii), Char.isLower_toLower_eq_isAlpha]

theorem isUppercase_toUpper : isUppercase c.toUpper = c.isAlpha := by
  rw [isUppercase, if_pos (toNat_toUpper_lt ascii), Char.isUpper_toUpper_eq_isAlpha]

theorem isLowercase_toUpper : isLowercase c.toUpper = false := by
  rw [isLowercase, if_pos (toNat_toUpper_lt ascii), Char.isLower_toUpper_eq_false]

theorem isDigit_toLower : c.toLower.isDigit = c.isDigit :=
  forall_ascii (p := fun c => c.toLower.isDigit = c.isDigit) (by decide +kernel) ascii

theorem isDigit_toUpper : c.toUpper.isDigit = c.isDigit :=
  forall_ascii (p := fun c => c.toUpper.isDigit = c.isDigit) (by decide +kernel) ascii

end Ascii

theorem flatMap_toLowercase_ascii {text : List Char} (ascii : ∀ c ∈ text, c.toNat < 128) :
    text.flatMap toLowercase = text.map Char.toLower := by
  rw [List.map_eq_flatMap]
  exact List.flatMap_congr fun c mem => toLowercase_ascii (ascii c mem)

end ServerSymbols.Text
