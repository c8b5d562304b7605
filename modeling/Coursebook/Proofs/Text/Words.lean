/-
The words of a text are what stands between its white space: the pieces
that it falls into when it is cut at every blank character, less the empty
ones (`words_eq`).
-/
import Coursebook.Proofs.Text.Trim

namespace Coursebook.Text

/-- The pieces between the characters that satisfy `p`, without the empty ones. -/
def piecesAt (p : Char → Bool) (s : Text) : List Text := (s.splitOnP p).filter (!·.isEmpty)

section

variable {p : Char → Bool}

@[simp] theorem piecesAt_nil : piecesAt p [] = [] := rfl

theorem piecesAt_cons {c : Char} (hc : p c = true) (s : Text) : piecesAt p (c :: s) = piecesAt p s := by
  rw [piecesAt, List.splitOnP_cons_eq_if_modifyHead, if_pos hc]
  rfl

theorem piecesAt_append {b : Text} (hb : ∀ c ∈ b, p c = true) (s : Text) : piecesAt p (b ++ s) = piecesAt p s := by
  induction b with
  | nil => rfl
  | cons c b ih =>
    obtain ⟨hc, hb⟩ := List.forall_mem_cons.1 hb
    rw [List.cons_append, piecesAt_cons hc, ih hb]

/-- A piece goes on to where the text can be cut. -/
theorem piecesAt_word_append {w r : Text} (hne : w ≠ []) (hw : ∀ c ∈ w, p c = false) (hr : ∀ c ∈ r.head?, p c = true) :
    piecesAt p (w ++ r) = w :: piecesAt p r := by
  have hkeep : ∀ ws : List Text, (w :: ws).filter (!·.isEmpty) = w :: ws.filter (!·.isEmpty) := fun ws =>
    List.filter_cons_of_pos (by simpa using hne)
  cases r with
  | nil => rw [List.append_nil, piecesAt, List.splitOnP_eq_singleton hw, hkeep, piecesAt_nil, List.filter_nil]
  | cons d r =>
    have hd : p d = true := hr d rfl
    rw [piecesAt, List.splitOnP_append_cons_of_forall_mem hw d hd, hkeep, piecesAt_cons hd]
    rfl

end

theorem words_eq (s : Text) : words s = piecesAt isBlank s := by
  fun_induction words s with
  | case1 s h =>
    have hs : ∀ c ∈ s, isBlank c = true := by
      rw [← List.all_eq_true, ← isBlankText, ← isBlankText_trimStart, h]
      rfl
    simpa using (piecesAt_append hs []).symm
  | case2 s c r h ih =>
    have hs : s = leadingBlank s ++ ((c :: r.takeWhile (!isBlank ·)) ++ r.dropWhile (!isBlank ·)) := by
      rw [List.cons_append, List.takeWhile_append_dropWhile, ← h, leadingBlank_append_trimStart]
    have hword : ∀ d ∈ c :: r.takeWhile (!isBlank ·), isBlank d = false := by
      refine List.forall_mem_cons.2 ⟨isBlank_of_trimStart h, fun d hd => ?_⟩
      simpa using List.all_eq_true.1 List.all_takeWhile d hd
    have hstop : ∀ d ∈ (r.dropWhile (!isBlank ·)).head?, isBlank d = true := by
      intro d hd
      have := List.head?_dropWhile_not (!isBlank ·) r
      rw [Option.mem_def.1 hd] at this
      simpa using this
    rw [ih]
    conv => rhs; rw [hs]
    rw [piecesAt_append (List.all_eq_true.1 (isBlankText_leadingBlank s)), piecesAt_word_append (by simp) hword hstop]

end Coursebook.Text
