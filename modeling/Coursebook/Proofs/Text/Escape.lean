/-
Escapes. Read from the left, a backslash takes the next character with it;
`endsEscaped` says that a text stops inside such a pair, so that what is
put behind it is escaped. Occurrences are escaped or not by what stands in
front of them.

`endsEscaped_iff_odd` is the other way to say it: the text ends in an odd
run of backslashes.
-/
import Coursebook.Proofs.Text.Search

namespace Coursebook.Text

/-- Whether a backslash at the end of a text escapes what follows the text. -/
def endsEscaped : Text → Bool
  | [] => false
  | ['\\'] => true
  | '\\' :: _ :: s => endsEscaped s
  | _ :: s => endsEscaped s

@[simp] theorem endsEscaped_nil : endsEscaped [] = false := rfl

@[simp] theorem endsEscaped_backslash : endsEscaped ['\\'] = true := rfl

@[simp] theorem endsEscaped_escape (c : Char) (s : Text) : endsEscaped ('\\' :: c :: s) = endsEscaped s := rfl

theorem endsEscaped_cons {c : Char} (hc : c ≠ '\\') (s : Text) : endsEscaped (c :: s) = endsEscaped s := by
  rw [endsEscaped]
  · rintro rfl
    exact absurd rfl hc
  · rintro d t rfl
    exact absurd rfl hc

/-- The last case of `endsEscaped` is that of a character that is no backslash. -/
theorem ne_backslash {c : Char} {s : Text} (h1 : c = '\\' → s ≠ []) (h2 : ∀ d t, c = '\\' → s ≠ d :: t) : c ≠ '\\' := by
  rintro rfl
  cases s with
  | nil => exact h1 rfl rfl
  | cons d s => exact h2 d s rfl rfl

theorem endsEscaped_append {a : Text} (h : endsEscaped a = false) (b : Text) :
    endsEscaped (a ++ b) = endsEscaped b := by
  fun_induction endsEscaped a with
  | case1 => rfl
  | case2 => simp at h
  | case3 c s ih => simpa using ih h
  | case4 c s h1 h2 ih =>
    rw [List.cons_append, endsEscaped_cons (ne_backslash h1 h2)]
    exact ih h

/-- A backslash that is not escaped escapes what comes next. -/
theorem endsEscaped_concat (a : Text) (c : Char) : endsEscaped (a ++ [c]) = (decide (c = '\\') && !endsEscaped a) := by
  fun_induction endsEscaped a with
  | case1 =>
    by_cases hc : c = '\\'
    · simp [hc]
    · simp [endsEscaped_cons hc, hc]
  | case2 => simp
  | case3 d s ih => exact ih
  | case4 d s h1 h2 ih =>
    rw [List.cons_append, endsEscaped_cons (ne_backslash h1 h2)]
    exact ih

theorem getLast?_of_endsEscaped {s : Text} (h : endsEscaped s = true) : s.getLast? = some '\\' := by
  fun_induction endsEscaped s with
  | case1 => simp at h
  | case2 => rfl
  | case3 c s ih =>
    have := ih h
    cases s with
    | nil => simp at this
    | cons d s => simpa using this
  | case4 c s h1 h2 ih =>
    have := ih h
    cases s with
    | nil => simp at this
    | cons d s => simpa using this

/-- A text that does not end in a backslash escapes nothing behind it. -/
theorem endsEscaped_eq_false {s : Text} (h : s.getLast? ≠ some '\\') : endsEscaped s = false := by
  cases hs : endsEscaped s with
  | false => rfl
  | true => exact absurd (getLast?_of_endsEscaped hs) h

theorem endsEscaped_replicate (n : Nat) : endsEscaped (List.replicate n '\\') = decide (n % 2 = 1) := by
  induction n using Nat.strongRecOn with
  | ind n ih =>
  cases n with
  | zero => rfl
  | succ n =>
    cases n with
    | zero => rfl
    | succ n =>
      rw [List.replicate_succ, List.replicate_succ, endsEscaped_escape, ih n (by omega), decide_eq_decide]
      omega

/-- A text ends inside an escape if the run of backslashes at its end is odd. -/
theorem endsEscaped_iff_odd (s : Text) :
    endsEscaped s = true ↔ (s.reverse.takeWhile (· = '\\')).length % 2 = 1 := by
  have hrun : s.reverse.takeWhile (· = '\\') =
      List.replicate (s.reverse.takeWhile (· = '\\')).length '\\' := by
    refine List.eq_replicate_of_mem fun c hc => ?_
    simpa using List.all_eq_true.1 List.all_takeWhile c hc
  have hcut : s = (s.reverse.dropWhile (· = '\\')).reverse ++ (s.reverse.takeWhile (· = '\\')).reverse := by
    rw [← List.reverse_append, List.takeWhile_append_dropWhile, List.reverse_reverse]
  have hfront : endsEscaped (s.reverse.dropWhile (· = '\\')).reverse = false := by
    refine endsEscaped_eq_false fun hl => ?_
    rw [List.getLast?_reverse] at hl
    have := List.head?_dropWhile_not (· = '\\') s.reverse
    rw [hl] at this
    simp at this
  have hends : endsEscaped s = endsEscaped (s.reverse.takeWhile (· = '\\')).reverse := by
    conv => lhs; rw [hcut]
    exact endsEscaped_append hfront _
  rw [hends, hrun, List.reverse_replicate, endsEscaped_replicate, decide_eq_true_eq, List.length_replicate]

/-- Whether a needle stands somewhere in a text with no backslash in front of it that escapes it. -/
def OccursUnescaped (needle s : Text) : Prop := ∃ a r, s = a ++ needle ++ r ∧ endsEscaped a = false

/-! ## Occurrences of a character -/

section

variable {d : Char}

theorem not_occursUnescaped_nil : ¬OccursUnescaped [d] [] := by
  rintro ⟨a, r, heq, -⟩
  simp at heq

theorem not_occursUnescaped_backslash (hd : d ≠ '\\') : ¬OccursUnescaped [d] ['\\'] := by
  rintro ⟨a, r, heq, -⟩
  cases a with
  | nil => exact hd (List.cons.inj heq).1.symm
  | cons c a => simp at heq

theorem occursUnescaped_cons {c : Char} (hc : c ≠ '\\') (s : Text) :
    OccursUnescaped [d] (c :: s) ↔ c = d ∨ OccursUnescaped [d] s := by
  constructor
  · rintro ⟨a, r, heq, ha⟩
    cases a with
    | nil => exact .inl (List.cons.inj heq).1
    | cons e a =>
      obtain ⟨rfl, htail⟩ := List.cons.inj heq
      exact .inr ⟨a, r, htail, by rwa [endsEscaped_cons hc] at ha⟩
  · rintro (rfl | ⟨a, r, rfl, ha⟩)
    · exact ⟨[], s, rfl, rfl⟩
    · exact ⟨c :: a, r, rfl, by rwa [endsEscaped_cons hc]⟩

theorem occursUnescaped_escape (hd : d ≠ '\\') (c : Char) (s : Text) :
    OccursUnescaped [d] ('\\' :: c :: s) ↔ OccursUnescaped [d] s := by
  constructor
  · rintro ⟨a, r, heq, ha⟩
    cases a with
    | nil => exact absurd (List.cons.inj heq).1.symm hd
    | cons e a =>
      cases a with
      | nil =>
        obtain ⟨rfl, -⟩ := List.cons.inj heq
        simp at ha
      | cons f a =>
        simp only [List.cons_append, List.cons.injEq] at heq
        obtain ⟨rfl, rfl, htail⟩ := heq
        exact ⟨a, r, htail, ha⟩
  · rintro ⟨a, r, rfl, ha⟩
    exact ⟨'\\' :: c :: a, r, rfl, ha⟩

end

end Coursebook.Text
