/-
Commands with a braced argument, `\name{arg}` and `\name*{arg}`, and their
replacement. An argument ends at the brace that matches its opening one;
escaped braces do not count. A call whose argument does not end is left as
it is.
-/
import Coursebook.Text.Basic

namespace Coursebook.Command

/-- Cuts a text around the closing brace that ends `depth` inner groups and the one around them:
what is inside, and what follows the brace. -/
def cutGroup? : (depth : Nat) → Text → Option (Text × Text)
  | _, [] => none
  | _, ['\\'] => none
  | depth, '\\' :: c :: s => (cutGroup? depth s).map fun (inside, r) => ('\\' :: c :: inside, r)
  | depth, '{' :: s => (cutGroup? (depth + 1) s).map fun (inside, r) => ('{' :: inside, r)
  | 0, '}' :: s => some ([], s)
  | depth + 1, '}' :: s => (cutGroup? depth s).map fun (inside, r) => ('}' :: inside, r)
  | depth, c :: s => (cutGroup? depth s).map fun (inside, r) => (c :: inside, r)

theorem eq_of_cutGroup? {depth : Nat} {s inside r : Text} (h : cutGroup? depth s = some (inside, r)) :
    s = inside ++ '}' :: r := by
  fun_induction cutGroup? depth s generalizing inside with
  | case1 => simp at h
  | case2 => simp at h
  | case3 depth c s ih | case4 depth s ih | case6 depth s ih | case7 depth c s _ _ _ _ _ ih =>
    simp only [Option.map_eq_some_iff, Prod.mk.injEq, Prod.exists] at h
    obtain ⟨i, r', hi, rfl, rfl⟩ := h
    simp [ih hi]
  | case5 s =>
    simp only [Option.some.injEq, Prod.mk.injEq] at h
    obtain ⟨rfl, rfl⟩ := h
    rfl

/-- Cuts a text that starts behind an opening brace around the brace that matches it. -/
def cutArgument? (s : Text) : Option (Text × Text) := cutGroup? 0 s

def word (name : Text) : Text := '\\' :: name

def dropStar : Text → Text
  | '*' :: s => s
  | s => s

/-- Reads the argument of a call behind the command's name: the argument, and what follows it. -/
def argument? (s : Text) : Option (Text × Text) :=
  match dropStar s with
  | '{' :: s => cutArgument? s
  | _ => none

theorem length_of_argument? {s arg r : Text} (h : argument? s = some (arg, r)) :
    arg.length < s.length ∧ r.length < s.length := by
  have hs : (dropStar s).length ≤ s.length := by
    unfold dropStar
    split <;> simp
  unfold argument? at h
  split at h
  · rename_i t ht
    rw [ht] at hs
    have := congrArg List.length (eq_of_cutGroup? h)
    simp at hs this
    omega
  · simp at h

/-- Replaces every call of a command by `f` of its argument, in which the calls have been replaced
before. -/
def replaceCalls (name : Text) (f : Text → Text) : Text → Text
  | [] => []
  | c :: s =>
    match _h : Text.after? (word name) (c :: s) with
    | none => c :: replaceCalls name f s
    | some behind =>
      match _g : argument? behind with
      | some (arg, r) => f (replaceCalls name f arg) ++ replaceCalls name f r
      | none => word name ++ replaceCalls name f behind
termination_by s => s.length
decreasing_by
  all_goals first | simp; done | have := Text.after?_length _h; simp only [word, List.length_cons] at this ⊢
  · have := (length_of_argument? _g).1; omega
  · have := (length_of_argument? _g).2; omega
  · omega

end Coursebook.Command
