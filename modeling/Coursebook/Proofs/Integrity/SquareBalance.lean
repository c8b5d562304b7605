/-
What the correction of squares does to the braces of a text.

The pattern of an exponent takes an opening brace in front of the digit and
a closing one behind it, each whether the other is there or not. A square
at the end of a group so takes the brace that closes the group, and the
correction, which writes its right side without braces, drops it. A text
loses what the right sides of the false squares that are found in it hold
(`braceBalance_correctSquares`).
-/
import Coursebook.Proofs.Command.Balance
import Coursebook.Proofs.Integrity.Square

namespace Coursebook.Identity

open Command (braceBalance braceBalance_between braceBalance_cons braceBalance_trimEnd)
open Text (Step endsEscaped endsEscaped_eq_false)

/-- The balance of what stands behind the left side of an identity. -/
def rightBalance (found : Text) : Int := braceBalance (found.dropWhile (· ≠ '='))

/-- The balance of the right sides of several identities together. -/
def rightBalances : List Text → Int
  | [] => 0
  | found :: more => rightBalance found + rightBalances more

/-! ## What is read and what is written -/

theorem not_takes_backslash : ∀ step ∈ (leftSteps ++ char '=' :: rightSteps) ++ [Step.followedBy isSign],
    step.takes '\\' = false := by
  simp only [leftSteps, rightSteps, squared, char, operand, List.forall_mem_append, List.forall_mem_cons]
  decide

/-- A square of a sum holds no escape. -/
theorem backslash_not_mem {w r : Text} {kept : List Text} (h : squareOfSum.read? ('(' :: (w ++ r)) = some (kept, r)) :
    '\\' ∉ w := by
  obtain ⟨w', he, hw⟩ := taken_of_read? h
  obtain rfl := List.append_cancel_right (List.cons.inj he).2
  intro hm
  obtain ⟨step, hs, ht⟩ := hw _ hm
  rw [not_takes_backslash step hs] at ht
  exact Bool.noConfusion ht

theorem endsEscaped_append_eq_false {x : Text} (hne : x ≠ []) (hx : '\\' ∉ x) (a : Text) : endsEscaped (a ++ x) = false := by
  refine endsEscaped_eq_false fun hl => hx ?_
  rw [List.getLast?_append_of_ne_nil _ hne] at hl
  exact List.mem_of_getLast? hl

theorem braceBalance_rightSide {a b : Char} (h : ∀ x ∈ [a, b], Text.isAsciiAlphanumeric x = true) :
    braceBalance ('=' :: rightSide a b) = 0 := by
  have hplain : ∀ x ∈ [a, b], ∀ s, braceBalance (x :: s) = braceBalance s := by
    intro x hx s
    have hne : ∀ {d : Char}, Text.isAsciiAlphanumeric d = false → x ≠ d := Text.ne_of_alphanumeric (h x hx)
    exact braceBalance_cons (hne (by decide)) (hne (by decide)) (hne (by decide)) s
  have ha := hplain a (by simp)
  have hb := hplain b (by simp)
  rw [rightSide, crossTerm]
  split
  · simp [braceBalance_cons, ha, hb, Command.braceBalance]
  · simp [braceBalance_cons, ha, hb, Command.braceBalance]

theorem endsEscaped_rightSide (a b : Char) : endsEscaped ('=' :: rightSide a b) = false := by
  refine endsEscaped_eq_false ?_
  simp [rightSide, List.getLast?_cons, List.getLast?_append]

theorem rightBalance_trimEnd {u : Text} (hu : '=' ∉ u) (y : Text) :
    rightBalance (Text.trimEnd (u ++ '=' :: y)) = braceBalance ('=' :: y) := by
  have htrim : Text.trimEnd ('=' :: y) = '=' :: Text.trimEnd y := Text.trimEnd_cons (by decide) y
  rw [Text.trimEnd_append (by simp [htrim]), htrim, rightBalance, (closed_ne hu _).1, ← htrim, braceBalance_trimEnd]

/-! ## The balance -/

theorem correctSquares_none {c : Char} {s : Text} (h : squareOfSum.read? (c :: s) = none) :
    correctSquares (c :: s) = c :: correctSquares s :=
  Text.replaceMatches_none (corrected?_eq_none_iff.2 h)

theorem correctSquares_some {w r out : Text} (h : corrected? ('(' :: (w ++ r)) = some (out, r)) :
    correctSquares ('(' :: (w ++ r)) = out ++ correctSquares r :=
  Text.replaceMatches_some h (by simp)

/-- The law in any context, which may end in a backslash that escapes the first character. -/
theorem braceBalance_append_correctSquares (s : Text) : ∀ a : Text,
    braceBalance (a ++ correctSquares s) + rightBalances (squareOfSum.findAll s) = braceBalance (a ++ s) := by
  rw [findAll_eq]
  refine Text.findAll_induct (Q := fun s l => ∀ a : Text, braceBalance (a ++ correctSquares s) +
    rightBalances ((l.filter fun m => squareOfSum.isFalse m.1).map fun m => Text.trimEnd m.2) =
      braceBalance (a ++ s)) ?nil ?skip ?found suffix_of_read? s
  case nil =>
    intro a
    simp [correctSquares, Text.replaceMatches, rightBalances]
  case skip =>
    intro c s l h ih a
    have := ih (a ++ [c])
    rw [correctSquares_none h]
    simpa using this
  case found =>
    intro c w r kept l h ih a
    obtain ⟨w', he, -, hcases⟩ := corrected?_of_read? h
    obtain ⟨rfl, happ⟩ := List.cons.inj he
    obtain rfl := List.append_cancel_right happ
    have hw := backslash_not_mem h
    rcases hcases with ⟨hf, hc⟩ | ⟨hf, u, y, d, x, x', rfl, hu, -, hab, hc⟩
    · have hskip : squareOfSum.isFalse kept = false := by rw [← Bool.not_eq_true, isFalse_iff h]; exact hf
      have := ih (a ++ '(' :: w)
      rw [correctSquares_some hc, List.filter_cons, if_neg (by simp [hskip])]
      simpa using this
    · have hkeep : squareOfSum.isFalse kept = true := (isFalse_iff h).2 hf
      simp only [List.mem_append, not_or] at hw
      have hfront : endsEscaped (a ++ '(' :: u) = false :=
        endsEscaped_append_eq_false (List.cons_ne_nil _ _) (by simp [hw.1]) a
      have hright : endsEscaped ('=' :: (y ++ [d])) = false :=
        endsEscaped_append_eq_false (List.cons_ne_nil _ _) (by simpa using hw.2) []
      have hbefore : braceBalance (a ++ '(' :: (u ++ '=' :: (y ++ [d]) ++ r)) =
          braceBalance (a ++ '(' :: u) + braceBalance ('=' :: (y ++ [d])) + braceBalance r := by
        rw [← braceBalance_between hfront hright]
        simp
      have hafter : braceBalance (a ++ ('(' :: (u ++ '=' :: rightSide x x') ++ correctSquares r)) =
          braceBalance (a ++ '(' :: u) + braceBalance ('=' :: rightSide x x') + braceBalance (correctSquares r) := by
        rw [← braceBalance_between hfront (endsEscaped_rightSide x x')]
        simp
      have hlost : rightBalance (Text.trimEnd ('(' :: (u ++ '=' :: (y ++ [d])))) = braceBalance ('=' :: (y ++ [d])) :=
        rightBalance_trimEnd (u := '(' :: u) (by simp [hu]) _
      have hrest := ih []
      rw [List.nil_append, List.nil_append] at hrest
      rw [correctSquares_some hc, List.filter_cons, if_pos hkeep, List.map_cons, rightBalances, hbefore, hafter,
        hlost, braceBalance_rightSide hab]
      omega

/-- **What the correction takes from the balance** is what the right sides of the false squares hold, so that it
keeps the balance exactly if these add up to nothing. -/
theorem braceBalance_correctSquares (s : Text) :
    braceBalance (correctSquares s) + rightBalances (squareOfSum.findAll s) = braceBalance s ∧
      (braceBalance (correctSquares s) = braceBalance s ↔ rightBalances (squareOfSum.findAll s) = 0) := by
  have h := braceBalance_append_correctSquares s []
  rw [List.nil_append, List.nil_append] at h
  exact ⟨h, by omega⟩

end Coursebook.Identity
