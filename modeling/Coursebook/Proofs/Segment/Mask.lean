/-
Placeholders. A placeholder is read back as the formula of its index,
whatever stands behind it (`restore_placeholder`), and every other
character is left alone (`restore_cons`). So a masked text that nobody
changed is restored to the text it was made from (`restore_text`).
-/
import Coursebook.Segment.Mask
import Coursebook.Proofs.Segment.Split
import Coursebook.Proofs.Text.Numeral

namespace Coursebook.Segment

/-! ## Indices -/

theorem maskClose_not_mem_ofNat (n : Nat) : maskClose ∉ Text.ofNat n := fun h =>
  absurd (Text.isAsciiDigit_of_mem_ofNat h) (by decide)

theorem placeholder_append (n : Nat) (s : Text) : placeholder n ++ s = maskOpen :: (Text.ofNat n ++ maskClose :: s) := by
  simp [placeholder]

theorem placeholder_append_inj {k n : Nat} {s t : Text} (h : placeholder k ++ s = placeholder n ++ t) : k = n ∧ s = t := by
  rw [placeholder_append, placeholder_append] at h
  have hcut : some (Text.ofNat k, s) = some (Text.ofNat n, t) := by
    rw [← Text.cut?_singleton (maskClose_not_mem_ofNat k), (List.cons.inj h).2,
      Text.cut?_singleton (maskClose_not_mem_ofNat n)]
  obtain ⟨hdigits, hrest⟩ := Prod.mk.inj (Option.some.inj hcut)
  have hnumbers := congrArg Text.toNat? hdigits
  rw [Text.toNat?_ofNat, Text.toNat?_ofNat] at hnumbers
  exact ⟨Option.some.inj hnumbers, hrest⟩

/-- What stands in a placeholder: the private-use characters and digits. -/
theorem mem_placeholder {n : Nat} {c : Char} (h : c ∈ placeholder n) :
    c = maskOpen ∨ c = maskClose ∨ Text.isAsciiDigit c = true := by
  rw [placeholder, List.cons_append, List.mem_cons, List.mem_append, List.mem_singleton] at h
  rcases h with h | h | h
  · exact .inl h
  · exact .inr (.inr (Text.isAsciiDigit_of_mem_ofNat h))
  · exact .inr (.inl h)

/-! ## Restoring -/

theorem filled?_placeholder {spans : List Text} {n : Nat} {span : Text} (h : spans[n]? = some span) (s : Text) :
    filled? spans (Text.ofNat n ++ maskClose :: s) = some (span, s) := by
  have hcut : Text.cut? [maskClose] (Text.ofNat n ++ maskClose :: s) = some (Text.ofNat n, s) :=
    Text.cut?_singleton (maskClose_not_mem_ofNat n) s
  simp [filled?, hcut, Text.toNat?_ofNat, h]

theorem length_of_filled? {spans : List Text} {s span r : Text} (h : filled? spans s = some (span, r)) :
    r.length ≤ s.length := by
  unfold filled? at h
  simp only [Option.bind_eq_bind, Option.bind_eq_some_iff, Option.pure_def, Option.some.injEq, Prod.exists,
    Prod.mk.injEq] at h
  obtain ⟨index, r', hcut, -, -, -, -, -, rfl⟩ := h
  simp only [Text.eq_of_cut? hcut, List.length_append]
  omega

namespace Masked

variable (m : Masked)

@[simp] theorem restore_nil : m.restore [] = [] := by
  rw [restore, Text.replaceMatches]

theorem restore_cons {c : Char} (hc : c ≠ maskOpen) (s : Text) : m.restore (c :: s) = c :: m.restore s :=
  Text.replaceMatches_none (by simp [hc])

theorem restore_placeholder {n : Nat} {span : Text} (h : m.spans[n]? = some span) (s : Text) :
    m.restore (placeholder n ++ s) = span ++ m.restore s := by
  have hfilled := filled?_placeholder h s
  rw [placeholder_append]
  refine Text.replaceMatches_some (by simp [hfilled]) ?_
  exact length_of_filled? hfilled

theorem restore_append {t : Text} (ht : maskOpen ∉ t) (s : Text) : m.restore (t ++ s) = t ++ m.restore s := by
  induction t with
  | nil => rfl
  | cons c t ih =>
    rw [List.mem_cons, not_or] at ht
    rw [List.cons_append, restore_cons m (Ne.symm ht.1), ih ht.2, List.cons_append]

end Masked

/-! ## Masking -/

theorem maskFrom_consProse (n : Nat) (c : Char) (ss : List Segment) :
    maskFrom n (consProse c ss) = c :: maskFrom n ss := by
  cases ss with
  | nil => rfl
  | cons g ss => cases g <;> rfl

theorem mask?_eq_some_iff {s : Text} {m : Masked} :
    mask? s = some m ↔ (maskOpen ∉ s ∧ maskClose ∉ s) ∧ m = ⟨maskFrom 0 (split s), mathSpans (split s)⟩ := by
  unfold mask?
  split
  · next h =>
    refine ⟨fun hm => absurd hm (by simp), fun hm => ?_⟩
    exact absurd h (not_or.2 hm.1)
  · next h =>
    rw [not_or] at h
    simp [h, eq_comm]

/-- Segments without placeholder characters in their prose are restored to the text they make. -/
theorem restore_maskFrom {m : Masked} {ss : List Segment} {n : Nat} (hn : m.spans.drop n = mathSpans ss)
    (hss : ∀ t, prose t ∈ ss → maskOpen ∉ t) : m.restore (maskFrom n ss) = joinRaw ss := by
  induction ss generalizing n with
  | nil => exact m.restore_nil
  | cons g ss ih =>
    have hss' : ∀ t, prose t ∈ ss → maskOpen ∉ t := fun t ht => hss t (List.mem_cons_of_mem _ ht)
    cases g with
    | prose t =>
      have := ih hn hss'
      rw [maskFrom, m.restore_append (hss t List.mem_cons_self), this]
      rfl
    | math k b =>
      have hspan : m.spans[n]? = some (math k b).raw := by
        rw [← List.head?_drop, hn]
        rfl
      have hrest : m.spans.drop (n + 1) = mathSpans ss := by
        rw [← List.tail_drop, hn]
        rfl
      rw [maskFrom, m.restore_placeholder hspan, ih hrest hss']
      rfl

theorem subset_of_mem_split {s : Text} {g : Segment} (h : g ∈ split s) : g.raw ⊆ s := fun c hc => by
  rw [← split_raw s, joinRaw, List.mem_flatMap]
  exact ⟨g, h, hc⟩

/-- **A masked text is restored** to the text that it was made from. -/
theorem restore_text {s : Text} {m : Masked} (h : mask? s = some m) : m.restore m.text = s := by
  obtain ⟨⟨hopen, -⟩, rfl⟩ := mask?_eq_some_iff.1 h
  have := restore_maskFrom (m := ⟨maskFrom 0 (split s), mathSpans (split s)⟩) (n := 0) rfl
    fun t ht hmem => hopen (subset_of_mem_split ht hmem)
  exact this.trans (split_raw s)

end Coursebook.Segment
