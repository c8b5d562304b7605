/-
Trimming: what is left is a piece of the text, nothing is left only of
white space, and a last character that is no white space stays the last.
A word stands in a trimmed text if it stood there before (`infix_trim`).
-/
import Coursebook.Proofs.Text.Search
import Coursebook.Text.Blank

namespace Coursebook.Text

theorem trimStart_suffix (s : Text) : trimStart s <:+ s := List.dropWhile_suffix _

theorem trimEnd_isPrefix (s : Text) : trimEnd s <+: s := ⟨trailingBlank s, trimEnd_append_trailingBlank s⟩

theorem leadingBlank_append_trimStart (s : Text) : leadingBlank s ++ trimStart s = s := List.takeWhile_append_dropWhile

theorem trim_infix (s : Text) : trim s <:+: s := (trimEnd_isPrefix _).isInfix.trans (trimStart_suffix s).isInfix

theorem trimEnd_append {t : Text} (h : trimEnd t ≠ []) (s : Text) : trimEnd (s ++ t) = s ++ trimEnd t := by
  induction s with
  | nil => rfl
  | cons c s ih =>
    rw [List.cons_append, trimEnd, ih]
    split
    · next he => simp [h] at he
    · rfl

theorem trimEnd_eq_nil_iff {s : Text} : trimEnd s = [] ↔ isBlankText s = true := by
  induction s with
  | nil => simp [trimEnd, isBlankText]
  | cons c s ih =>
    rw [trimEnd, isBlankText, List.all_cons, Bool.and_eq_true, ← isBlankText, ← ih]
    split
    · next he => simp [he]
    · next he => simp [show trimEnd s ≠ [] from he]

theorem trimEnd_cons {c : Char} (hc : isBlank c = false) (s : Text) : trimEnd (c :: s) = c :: trimEnd s := by
  rw [trimEnd]
  split
  · next hs => simp [hc, hs]
  · rfl

theorem isBlankText_cons {c : Char} (hc : isBlank c = false) (s : Text) : isBlankText (c :: s) = false := by
  rw [isBlankText, List.all_cons, hc, Bool.false_and]

theorem isBlankText_append (a b : Text) : isBlankText (a ++ b) = (isBlankText a && isBlankText b) := List.all_append

theorem isBlankText_trimStart (s : Text) : isBlankText (trimStart s) = isBlankText s := by
  induction s with
  | nil => rfl
  | cons c s ih =>
    by_cases hc : isBlank c = true
    · rw [trimStart, List.dropWhile_cons_of_pos hc, ← trimStart, ih]
      simp [isBlankText, hc]
    · rw [trimStart, List.dropWhile_cons_of_neg hc]

/-- A text that is not white space alone ends the white space in front of what follows it. -/
theorem trimStart_append {a : Text} (h : isBlankText a = false) (s : Text) : trimStart (a ++ s) = trimStart a ++ s := by
  have hne : trimStart a ≠ [] := fun he => by
    rw [← isBlankText_trimStart, he] at h
    exact Bool.noConfusion h
  rw [trimStart, List.dropWhile_append, if_neg (by simpa [trimStart] using hne)]
  rfl

theorem trim_eq_nil_iff {s : Text} : trim s = [] ↔ isBlankText s = true := by
  rw [trim, trimEnd_eq_nil_iff, isBlankText_trimStart]

/-- A text that is trimmed at its end alone keeps the white space in front. -/
theorem trimEnd_eq_append_trim {s : Text} (h : isBlankText s = false) : trimEnd s = leadingBlank s ++ trim s := by
  have ht : trim s ≠ [] := by simp [trim_eq_nil_iff, h]
  have hs : s = leadingBlank s ++ trimStart s := (leadingBlank_append_trimStart s).symm
  conv => lhs; rw [hs]
  exact trimEnd_append ht _

/-- Trimming both ends or the end alone leaves the same last character. -/
theorem getLast?_trimEnd {s : Text} (h : isBlankText s = false) : (trimEnd s).getLast? = (trim s).getLast? := by
  have ht : trim s ≠ [] := by simp [trim_eq_nil_iff, h]
  rw [trimEnd_eq_append_trim h, List.getLast?_append]
  cases hl : (trim s).getLast? with
  | some c => rfl
  | none => exact absurd (List.getLast?_eq_none_iff.1 hl) ht

/-- A text with no white space at its end is not trimmed there. -/
theorem trimEnd_eq_self {s : Text} {c : Char} (h : s.getLast? = some c) (hc : isBlank c = false) : trimEnd s = s := by
  obtain ⟨t, rfl⟩ := List.getLast?_eq_some_iff.1 h
  have : trimEnd [c] = [c] := by simp [trimEnd, hc]
  rw [trimEnd_append (by simp [this]), this]

theorem isBlankText_trailingBlank (s : Text) : isBlankText (trailingBlank s) = true := by
  induction s with
  | nil => rfl
  | cons c s ih =>
    rw [trailingBlank, trimEnd]
    split
    · next hs =>
      have hblank := trimEnd_eq_nil_iff.1 hs
      split
      · next hc => simpa [isBlankText, hc] using hblank
      · simpa using hblank
    · simpa [trailingBlank] using ih

theorem isBlankText_leadingBlank (s : Text) : isBlankText (leadingBlank s) = true := List.all_takeWhile

theorem leading_trim_trailing (s : Text) : leadingBlank s ++ (trim s ++ trailingBlank (trimStart s)) = s := by
  rw [trim, trimEnd_append_trailingBlank, leadingBlank_append_trimStart]

/-- The first character of a trimmed text is no white space. -/
theorem isBlank_of_trimStart {s t : Text} {c : Char} (h : trimStart s = c :: t) : isBlank c = false := by
  have := List.head?_dropWhile_not isBlank s
  rw [← trimStart, h] at this
  simpa using this

theorem isBlank_of_trim {s t : Text} {c : Char} (h : trim s = c :: t) : isBlank c = false := by
  obtain ⟨u, hu⟩ := trimEnd_isPrefix (trimStart s)
  rw [← trim, h] at hu
  exact isBlank_of_trimStart hu.symm

theorem isBlank_of_head?_trimStart {s : Text} : ∀ c ∈ (trimStart s).head?, isBlank c = false := by
  intro c hc
  obtain ⟨t, ht⟩ := List.head?_eq_some_iff.1 hc
  exact isBlank_of_trimStart ht

theorem isBlank_of_head?_trim {s : Text} : ∀ c ∈ (trim s).head?, isBlank c = false := by
  intro c hc
  obtain ⟨t, ht⟩ := List.head?_eq_some_iff.1 hc
  exact isBlank_of_trim ht

theorem trimEnd_append_blank {b : Text} (hb : isBlankText b = true) (s : Text) : trimEnd (s ++ b) = trimEnd s := by
  induction s with
  | nil => exact trimEnd_eq_nil_iff.2 hb
  | cons c s ih => rw [List.cons_append, trimEnd, trimEnd, ih]

/-- The last character of a text that is trimmed is no white space. -/
theorem isBlank_of_getLast?_trimEnd {s : Text} {c : Char} (h : (trimEnd s).getLast? = some c) : isBlank c = false := by
  cases hc : isBlank c with
  | false => rfl
  | true =>
    obtain ⟨t, ht⟩ := List.getLast?_eq_some_iff.1 h
    -- Trimming the trimmed text again would take its last character away.
    have hagain : trimEnd (trimEnd s) = trimEnd s := by
      conv => rhs; rw [← trimEnd_append_trailingBlank s]
      rw [trimEnd_append_blank (isBlankText_trailingBlank s)]
    have hblank : isBlankText [c] = true := by simp [isBlankText, hc]
    rw [ht, trimEnd_append_blank hblank] at hagain
    have := (trimEnd_isPrefix t).length_le
    simp only [hagain, List.length_append, List.length_singleton] at this
    omega

/-- White space on either side is trimmed, and what stands between is not, if no white space is at its ends. -/
theorem trim_between {a x b : Text} (ha : isBlankText a = true) (hb : isBlankText b = true)
    (hfirst : ∀ c ∈ x.head?, isBlank c = false) (hlast : ∀ c ∈ x.getLast?, isBlank c = false) :
    trim (a ++ (x ++ b)) = x := by
  cases x with
  | nil => rw [List.nil_append, trim_eq_nil_iff, isBlankText_append, ha, hb, Bool.and_self]
  | cons c x =>
    have hstart : trimStart (a ++ (c :: x ++ b)) = c :: x ++ b := by
      rw [trimStart, List.dropWhile_append_of_pos (List.all_eq_true.1 ha), List.cons_append,
        List.dropWhile_cons_of_neg (by simp [hfirst c rfl])]
    obtain ⟨d, hd⟩ : ∃ d, (c :: x).getLast? = some d := ⟨_, List.getLast?_eq_some_getLast (List.cons_ne_nil c x)⟩
    rw [trim, hstart, trimEnd_append_blank hb, trimEnd_eq_self hd (hlast d hd)]

theorem trim_trim (s : Text) : trim (trim s) = trim s := by
  have := trim_between (a := []) (b := []) rfl rfl (isBlank_of_head?_trim (s := s)) fun c hc =>
    isBlank_of_getLast?_trimEnd hc
  simpa using this

/-- White space behind a word is trimmed, and the word is not. -/
theorem trimEnd_word_append {w b : Text} (hw : ∀ c ∈ w, isBlank c = false) (hb : isBlankText b = true) :
    trimEnd (w ++ b) = w := by
  induction w with
  | nil => exact trimEnd_eq_nil_iff.2 hb
  | cons c w ih =>
    obtain ⟨hc, hw⟩ := List.forall_mem_cons.1 hw
    rw [List.cons_append, trimEnd, ih hw]
    split
    · simp [hc]
    · rfl

/-- A trimmed text starts as it does when it is trimmed at its start alone. -/
theorem head?_trim (s : Text) : (trim s).head? = (trimStart s).head? := by
  rw [trim]
  cases h : trimStart s with
  | nil => rfl
  | cons c t =>
    rw [trimEnd_cons (isBlank_of_trimStart h)]
    rfl

/-! ## Words in a text that is trimmed -/

section

variable {w : Text} (hne : w ≠ []) (hw : ∀ c ∈ w, isBlank c = false)

include hw in
theorem not_mem_of_isBlank {c : Char} (hc : isBlank c = true) : c ∉ w := by
  intro hmem
  rw [hw c hmem] at hc
  exact Bool.noConfusion hc

include hne hw

theorem not_infix_blank {b : Text} (hb : isBlankText b = true) : ¬w <:+: b := by
  obtain ⟨c, w, rfl⟩ := List.exists_cons_of_ne_nil hne
  intro h
  have hc := List.all_eq_true.1 hb c (h.subset List.mem_cons_self)
  rw [hw c List.mem_cons_self] at hc
  exact Bool.noConfusion hc

theorem infix_blank_append {b : Text} (hb : isBlankText b = true) (s : Text) : w <:+: b ++ s ↔ w <:+: s := by
  induction b with
  | nil => rfl
  | cons c b ih =>
    rw [isBlankText, List.all_cons, Bool.and_eq_true] at hb
    have hcons := infix_append_cons (not_mem_of_isBlank hw hb.1) [] (b ++ s)
    rw [List.nil_append, List.infix_nil] at hcons
    rw [List.cons_append, hcons, ih hb.2]
    simp [hne]

theorem infix_append_blank {b : Text} (hb : isBlankText b = true) (s : Text) : w <:+: s ++ b ↔ w <:+: s := by
  cases b with
  | nil => rw [List.append_nil]
  | cons c b =>
    rw [isBlankText, List.all_cons, Bool.and_eq_true] at hb
    rw [infix_append_cons (not_mem_of_isBlank hw hb.1)]
    exact or_iff_left (not_infix_blank hne hw hb.2)

theorem infix_trimStart (s : Text) : w <:+: trimStart s ↔ w <:+: s := by
  conv => rhs; rw [← leadingBlank_append_trimStart s]
  exact (infix_blank_append hne hw (isBlankText_leadingBlank s) _).symm

theorem infix_trimEnd (s : Text) : w <:+: trimEnd s ↔ w <:+: s := by
  conv => rhs; rw [← trimEnd_append_trailingBlank s]
  exact (infix_append_blank hne hw (isBlankText_trailingBlank s) _).symm

/-- **A word is not trimmed**, not even in part. -/
theorem infix_trim (s : Text) : w <:+: trim s ↔ w <:+: s := by
  rw [trim, infix_trimEnd hne hw, infix_trimStart hne hw]

end

theorem words_eq_nil_iff {s : Text} : words s = [] ↔ isBlankText s = true := by
  rw [← isBlankText_trimStart, words]
  split
  · next h => simp [h, isBlankText]
  · next c r h => simp [h, isBlankText_cons (isBlank_of_trimStart h)]

end Coursebook.Text
