/-
Numbers as their digits: what is written is read back (`toNat?_ofNat`), and
only zero has a zero in front (`eq_zero_of_head?_ofNat`).
-/
import Coursebook.Text.Basic

namespace Coursebook.Text

theorem isDigit_of_mem_ofNat {n : Nat} {c : Char} (h : c ∈ ofNat n) : c.isDigit = true :=
  Nat.isDigit_of_mem_toDigits (by decide) (by decide) h

theorem isAsciiDigit_of_mem_ofNat {n : Nat} {c : Char} (h : c ∈ ofNat n) : isAsciiDigit c = true := by
  have hc := isDigit_of_mem_ofNat h
  rw [Char.isDigit, Bool.and_eq_true, decide_eq_true_eq, decide_eq_true_eq] at hc
  simpa only [isAsciiDigit, Bool.and_eq_true, decide_eq_true_eq, Char.le_def, ge_iff_le] using hc

theorem ofNat_ne_nil (n : Nat) : ofNat n ≠ [] := Nat.toDigits_ne_nil

theorem digitsValue_ofNat (n : Nat) : digitsValue (ofNat n) = n := by
  have := Nat.ofDigitChars_ten_toDigits (n := n)
  simpa [digitsValue, ofNat, Nat.ofDigitChars, Nat.mul_comm] using this

theorem toNat?_ofNat (n : Nat) : toNat? (ofNat n) = some n := by
  have hdigits : (ofNat n).all isAsciiDigit = true := List.all_eq_true.2 fun c => isAsciiDigit_of_mem_ofNat
  have hplus : ∀ r, ofNat n ≠ '+' :: r := by
    intro r hr
    have : isAsciiDigit '+' = true := isAsciiDigit_of_mem_ofNat (n := n) (hr ▸ List.mem_cons_self)
    exact absurd this (by decide)
  unfold toNat?
  split
  · next r hr => exact absurd hr (hplus r)
  · simp [ofNat_ne_nil, hdigits, digitsValue_ofNat]

/-- Only the number zero starts with a zero. -/
theorem eq_zero_of_head?_ofNat {n : Nat} (h : (ofNat n).head? = some '0') : n = 0 := by
  induction n using Nat.strongRecOn with
  | ind n ih =>
    by_cases hn : n < 10
    · have hdigit : ∀ m < 10, Nat.digitChar m = '0' → m = 0 := by decide
      rw [ofNat, Nat.toDigits_of_lt_base hn, List.head?_cons, Option.some_inj] at h
      exact hdigit n hn h
    · obtain ⟨c, r, hfront⟩ := List.exists_cons_of_ne_nil (ofNat_ne_nil (n / 10))
      rw [ofNat, Nat.toDigits_of_base_le (by decide) (by omega), ← ofNat, hfront] at h
      have := ih (n / 10) (by omega) (by simpa [hfront] using h)
      omega

end Coursebook.Text
