/-
Letters and digits of ASCII: their code points, and that they are word
characters and no white space.
-/
import Coursebook.Text.Blank
import Coursebook.Text.WordChar

namespace Coursebook.Text

variable {c : Char}

theorem isAsciiAlphanumeric_of_letter (h : isAsciiLetter c = true) : isAsciiAlphanumeric c = true := by
  rw [isAsciiAlphanumeric, h, Bool.true_or]

theorem isAsciiAlphanumeric_iff : isAsciiAlphanumeric c = true ↔
    0x30 ≤ c.toNat ∧ c.toNat ≤ 0x39 ∨ 0x41 ≤ c.toNat ∧ c.toNat ≤ 0x5A ∨ 0x61 ≤ c.toNat ∧ c.toNat ≤ 0x7A := by
  have hle : ∀ a b : Char, a ≤ b ↔ a.toNat ≤ b.toNat := fun _ _ => Iff.rfl
  simp only [isAsciiAlphanumeric, isAsciiLetter, isAsciiDigit, Bool.or_eq_true, Bool.and_eq_true, decide_eq_true_eq,
    hle, Char.reduceToNat]
  omega

theorem isAsciiLetter_of_digit (h : isAsciiDigit c = true) : isAsciiLetter c = false := by
  have hle : ∀ a b : Char, a ≤ b ↔ a.toNat ≤ b.toNat := fun _ _ => Iff.rfl
  simp only [isAsciiDigit, isAsciiLetter, Bool.and_eq_true, Bool.or_eq_false_iff, Bool.and_eq_false_iff,
    decide_eq_true_eq, decide_eq_false_iff_not, hle, Char.reduceToNat] at h ⊢
  omega

theorem toNat_lt_of_alphanumeric (h : isAsciiAlphanumeric c = true) : c.toNat < 0x80 := by
  rw [isAsciiAlphanumeric_iff] at h
  omega

theorem ne_of_alphanumeric (h : isAsciiAlphanumeric c = true) {d : Char} (hd : isAsciiAlphanumeric d = false) : c ≠ d := by
  intro he
  rw [← he, h] at hd
  exact Bool.noConfusion hd

theorem isBlank_of_alphanumeric (h : isAsciiAlphanumeric c = true) : isBlank c = false := by
  rw [isAsciiAlphanumeric_iff] at h
  simp only [isBlank, Bool.or_eq_false_iff, Bool.and_eq_false_iff, decide_eq_false_iff_not]
  omega

theorem isWordChar_of_alphanumeric (h : isAsciiAlphanumeric c = true) : isWordChar c = true := by
  rw [isWordChar, if_pos (toNat_lt_of_alphanumeric h), h, Bool.true_or]

end Coursebook.Text
