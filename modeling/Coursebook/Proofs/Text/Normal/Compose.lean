/-
Normal form C is a normal form: composing and then taking apart again gives
what was there (`decompose_compose`), so a normalized text has the
decomposition of the text and is normalized to itself
(`normalize_normalize`).
-/
import Coursebook.Proofs.Text.Normal.Order
import Coursebook.Proofs.Text.Normal.Table

namespace Coursebook.Text

/-- The full canonical decomposition of a text, in order. -/
def decompose (s : Text) : Text := orderMarks (s.flatMap decomposeChar)

theorem normalize_eq (s : Text) : normalize s = compose (decompose s) := rfl

/-- Whether a mark of this class is not held up by what was kept in front of it. -/
def Free (kept : Text) (c : Char) : Prop := ∀ k ∈ kept.head?, combiningClass k < combiningClass c

instance (kept : Text) (c : Char) : Decidable (Free kept c) :=
  inferInstanceAs (Decidable (∀ k ∈ kept.head?, combiningClass k < combiningClass c))

theorem composeAfter_eq (starter : Char) (kept : Text) (c : Char) (s : Text) :
    composeAfter starter kept (c :: s) =
      match if Free kept c then composePair? starter c else none with
      | some d => composeAfter d kept s
      | none =>
        if combiningClass c = 0 then starter :: kept.reverse ++ composeAfter c [] s
        else composeAfter starter (c :: kept) s := by
  cases kept with
  | nil =>
    have hf : Free [] c := by simp [Free]
    rw [if_pos hf]
    rfl
  | cons k kept =>
    have hf : Free (k :: kept) c ↔ decide (combiningClass k < combiningClass c) = true := by simp [Free]
    simp only [hf]
    rfl

/-- What becomes of the next character: it composes, it starts anew, or it is kept. -/
theorem composeAfter_cons (starter : Char) (kept : Text) (c : Char) (s : Text) :
    (∃ d, Free kept c ∧ composePair? starter c = some d ∧
      composeAfter starter kept (c :: s) = composeAfter d kept s) ∨
    (Free kept c → composePair? starter c = none) ∧
      (combiningClass c = 0 ∧
          composeAfter starter kept (c :: s) = starter :: kept.reverse ++ composeAfter c [] s ∨
        combiningClass c ≠ 0 ∧ composeAfter starter kept (c :: s) = composeAfter starter (c :: kept) s) := by
  rw [composeAfter_eq]
  by_cases hf : Free kept c
  · rw [if_pos hf]
    cases hd : composePair? starter c with
    | some d => exact .inl ⟨d, hf, rfl, rfl⟩
    | none =>
      refine .inr ⟨fun _ => rfl, ?_⟩
      by_cases hc : combiningClass c = 0
      · exact .inl ⟨hc, if_pos hc⟩
      · exact .inr ⟨hc, if_neg hc⟩
  · rw [if_neg hf]
    refine .inr ⟨fun h => absurd h hf, ?_⟩
    by_cases hc : combiningClass c = 0
    · exact .inl ⟨hc, if_pos hc⟩
    · exact .inr ⟨hc, if_neg hc⟩

/-! ## Composing loses nothing -/

/-- The marks that were kept, the latest first: in order, and in order with what follows. -/
structure Kept (kept s : Text) : Prop where
  marks : ∀ k ∈ kept, combiningClass k ≠ 0
  before : ∀ k ∈ kept, ∀ c ∈ s.head?, combiningClass c ≠ 0 → combiningClass k ≤ combiningClass c
  latest : ∀ k ∈ kept, ∀ l ∈ kept.head?, combiningClass k ≤ combiningClass l

theorem Kept.nil (s : Text) : Kept [] s := ⟨by simp, by simp, by simp⟩

/-- What is free has a higher class than all that was kept. -/
theorem Kept.lt {kept s : Text} {c : Char} (h : Kept kept s) (hf : Free kept c) :
    ∀ k ∈ kept, combiningClass k < combiningClass c := by
  intro k hk
  cases kept with
  | nil => cases hk
  | cons l kept =>
    have h1 := h.latest k hk l rfl
    have h2 := hf l rfl
    omega

theorem Kept.composed {kept s : Text} {c : Char} (h : Kept kept (c :: s)) (hs : Ordered (c :: s)) (hf : Free kept c) :
    Kept kept s where
  marks := h.marks
  before := by
    intro k hk e he h0
    have h1 := h.lt hf k hk
    have h2 := hs.1 e he h0
    omega
  latest := h.latest

theorem Kept.kept {kept s : Text} {c : Char} (h : Kept kept (c :: s)) (hs : Ordered (c :: s))
    (hc : combiningClass c ≠ 0) : Kept (c :: kept) s where
  marks := by
    intro k hk
    rcases List.mem_cons.1 hk with rfl | hk
    · exact hc
    · exact h.marks k hk
  before := by
    intro k hk e he h0
    have h2 := hs.1 e he h0
    rcases List.mem_cons.1 hk with rfl | hk
    · exact h2
    · have h1 := h.before k hk c rfl hc
      omega
  latest := by
    intro k hk l hl
    cases hl
    rcases List.mem_cons.1 hk with rfl | hk
    · exact Nat.le_refl _
    · exact h.before k hk c rfl hc

theorem flatMap_alone {s : Text} (h : ∀ c ∈ s, decomposeChar c = [c]) : s.flatMap decomposeChar = s := by
  induction s with
  | nil => rfl
  | cons c s ih =>
    rw [List.flatMap_cons, h c List.mem_cons_self, ih fun d hd => h d (List.mem_cons_of_mem _ hd)]
    rfl

theorem orderMarks_composeAfter {s : Text} (hs : Ordered s) (ha : ∀ c ∈ s, decomposeChar c = [c]) :
    ∀ (starter : Char) (kept : Text), Kept kept s → (∀ k ∈ kept, decomposeChar k = [k]) →
      orderMarks ((composeAfter starter kept s).flatMap decomposeChar) =
        orderMarks (decomposeChar starter ++ kept.reverse ++ s) := by
  induction s with
  | nil =>
    intro starter kept _ hk
    rw [composeAfter, List.flatMap_cons, flatMap_alone (by simpa using hk), List.append_nil]
  | cons c s ih =>
    intro starter kept hkept hk
    have ha' : ∀ d ∈ s, decomposeChar d = [d] := fun d hd => ha d (List.mem_cons_of_mem _ hd)
    rcases composeAfter_cons starter kept c s with ⟨d, hf, hd, he⟩ | ⟨-, ⟨hc, he⟩ | ⟨hc, he⟩⟩
    · -- the mark that composed was free to move in front of those that were kept
      have hmove : orderMarks (c :: (kept.reverse ++ s)) = orderMarks (kept.reverse ++ c :: s) :=
        orderMarks_cons_append (fun m hm => ⟨hkept.marks m (List.mem_reverse.1 hm),
          hkept.lt hf m (List.mem_reverse.1 hm)⟩) s
      calc orderMarks ((composeAfter starter kept (c :: s)).flatMap decomposeChar)
          = orderMarks (decomposeChar d ++ kept.reverse ++ s) := by
            rw [he, ih hs.2 ha' d kept (hkept.composed hs hf) hk]
        _ = orderMarks (decomposeChar starter ++ c :: (kept.reverse ++ s)) := by
            rw [decomposeChar_of_composePair? hd]
            simp
        _ = orderMarks (decomposeChar starter ++ orderMarks (c :: (kept.reverse ++ s))) :=
            (orderMarks_append_orderMarks _ _).symm
        _ = orderMarks (decomposeChar starter ++ kept.reverse ++ c :: s) := by
            rw [hmove, orderMarks_append_orderMarks, List.append_assoc]
    · have hrest := ih hs.2 ha' c [] (Kept.nil s) (by simp)
      rw [ha c List.mem_cons_self] at hrest
      have hfront : (starter :: kept.reverse).flatMap decomposeChar = decomposeChar starter ++ kept.reverse := by
        rw [List.flatMap_cons, flatMap_alone (by simpa using hk)]
      rw [he, List.flatMap_append, hfront, ← orderMarks_append_orderMarks, hrest, orderMarks_append_orderMarks]
      rfl
    · have hk' : ∀ k ∈ c :: kept, decomposeChar k = [k] := by
        intro k hk'
        rcases List.mem_cons.1 hk' with rfl | hk'
        · exact ha _ List.mem_cons_self
        · exact hk k hk'
      rw [he, ih hs.2 ha' starter (c :: kept) (hkept.kept hs hc) hk']
      simp

/-- **Composing loses nothing**: what is taken apart and in order comes back. -/
theorem decompose_compose {s : Text} (hs : Ordered s) (ha : ∀ c ∈ s, decomposeChar c = [c]) :
    decompose (compose s) = s := by
  induction s with
  | nil => rfl
  | cons c s ih =>
    have ha' : ∀ d ∈ s, decomposeChar d = [d] := fun d hd => ha d (List.mem_cons_of_mem _ hd)
    have hc := ha c List.mem_cons_self
    rw [compose, decompose]
    split
    · rw [orderMarks_composeAfter hs.2 ha' c [] (Kept.nil s) (by simp), hc]
      exact orderMarks_of_ordered hs
    · rw [List.flatMap_cons, hc, ← orderMarks_append_orderMarks, ← decompose, ih hs.2 ha']
      exact orderMarks_of_ordered hs

theorem mem_decompose {s : Text} {c : Char} (h : c ∈ decompose s) : decomposeChar c = [c] := by
  obtain ⟨d, -, hd⟩ := List.mem_flatMap.1 ((orderMarks_perm _).mem_iff.1 h)
  exact decomposeChar_of_mem hd

theorem decompose_normalize (s : Text) : decompose (normalize s) = decompose s :=
  decompose_compose (ordered_orderMarks _) fun _ hc => mem_decompose hc

/-- **A normalized text is normalized to itself.** -/
theorem normalize_normalize (s : Text) : normalize (normalize s) = normalize s := by
  rw [normalize_eq, decompose_normalize, ← normalize_eq]

end Coursebook.Text
