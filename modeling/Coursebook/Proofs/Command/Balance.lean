/-
The balance of braces is a sum: that of two texts behind each other is the
sum of theirs, unless a backslash at the end of the first takes a character
of the second with it.
-/
import Coursebook.Command.Balance
import Coursebook.Proofs.Text.Escape
import Coursebook.Proofs.Text.Trim

namespace Coursebook.Command

open Text (endsEscaped endsEscaped_cons)

@[simp] theorem braceBalance_escape (c : Char) (s : Text) : braceBalance ('\\' :: c :: s) = braceBalance s := rfl

@[simp] theorem braceBalance_opening (s : Text) : braceBalance ('\x7b' :: s) = braceBalance s + 1 := rfl

@[simp] theorem braceBalance_closing (s : Text) : braceBalance ('\x7d' :: s) = braceBalance s - 1 := rfl

theorem braceBalance_cons {c : Char} (h1 : c ≠ '\\') (h2 : c ≠ '\x7b') (h3 : c ≠ '\x7d') (s : Text) :
    braceBalance (c :: s) = braceBalance s := by
  rw [braceBalance]
  · rintro rfl
    exact absurd rfl h1
  · rintro d t rfl
    exact absurd rfl h1
  · exact h2
  · exact h3

theorem braceBalance_append {a : Text} (h : endsEscaped a = false) (b : Text) :
    braceBalance (a ++ b) = braceBalance a + braceBalance b := by
  fun_induction braceBalance a with
  | case1 => simp
  | case2 => simp at h
  | case3 c s ih => exact ih h
  | case4 s ih =>
    rw [endsEscaped_cons (by decide)] at h
    rw [List.cons_append, braceBalance_opening, ih h]
    omega
  | case5 s ih =>
    rw [endsEscaped_cons (by decide)] at h
    rw [List.cons_append, braceBalance_closing, ih h]
    omega
  | case6 c s h1 h2 h3 h4 ih =>
    have hc : c ≠ '\\' := by
      rintro rfl
      cases s with
      | nil => exact h1 rfl rfl
      | cons d s => exact h2 d s rfl rfl
    rw [endsEscaped_cons hc] at h
    rw [List.cons_append, braceBalance_cons hc h3 h4, ih h]

theorem braceBalance_between {a b : Text} (ha : endsEscaped a = false) (hb : endsEscaped b = false) (c : Text) :
    braceBalance (a ++ (b ++ c)) = braceBalance a + braceBalance b + braceBalance c := by
  rw [braceBalance_append ha, braceBalance_append hb, Int.add_assoc]

/-- A character that is escaped does not count. -/
theorem braceBalance_append_cons {a : Text} (h : endsEscaped a = true) (c : Char) (b : Text) :
    braceBalance (a ++ c :: b) = braceBalance a + braceBalance b := by
  fun_induction braceBalance a with
  | case1 => simp at h
  | case2 => simp
  | case3 d s ih => exact ih h
  | case4 s ih =>
    rw [endsEscaped_cons (by decide)] at h
    rw [List.cons_append, braceBalance_opening, ih h]
    omega
  | case5 s ih =>
    rw [endsEscaped_cons (by decide)] at h
    rw [List.cons_append, braceBalance_closing, ih h]
    omega
  | case6 d s h1 h2 h3 h4 ih =>
    have hd : d ≠ '\\' := by
      rintro rfl
      cases s with
      | nil => exact h1 rfl rfl
      | cons e s => exact h2 e s rfl rfl
    rw [endsEscaped_cons hd] at h
    rw [List.cons_append, braceBalance_cons hd h3 h4, ih h]

theorem braceBalance_blank {b : Text} (hb : Text.isBlankText b = true) : braceBalance b = 0 := by
  induction b with
  | nil => rfl
  | cons c b ih =>
    rw [Text.isBlankText, List.all_cons, Bool.and_eq_true] at hb
    have hne : ∀ {d : Char}, Text.isBlank d = false → c ≠ d := by
      intro d hd he
      rw [he, hd] at hb
      exact Bool.noConfusion hb.1
    rw [braceBalance_cons (hne (by decide)) (hne (by decide)) (hne (by decide)), ih hb.2]

/-- White space at the end of a text holds no brace, escaped or not. -/
theorem braceBalance_trimEnd (s : Text) : braceBalance (Text.trimEnd s) = braceBalance s := by
  have hblank := Text.isBlankText_trailingBlank s
  conv => rhs; rw [← Text.trimEnd_append_trailingBlank s]
  cases he : endsEscaped (Text.trimEnd s) with
  | false => rw [braceBalance_append he, braceBalance_blank hblank, Int.add_zero]
  | true =>
    cases hb : Text.trailingBlank s with
    | nil => rw [List.append_nil]
    | cons c b =>
      rw [hb, Text.isBlankText, List.all_cons, Bool.and_eq_true] at hblank
      rw [braceBalance_append_cons he, braceBalance_blank hblank.2, Int.add_zero]

theorem braceBalance_replicate (n : Nat) : braceBalance (List.replicate n '\x7d') = -n := by
  induction n with
  | zero => rfl
  | succ n ih =>
    rw [List.replicate_succ, braceBalance_closing, ih]
    omega

end Coursebook.Command
