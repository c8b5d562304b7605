/-
Splitting as a segmentation. The segments join to the text, none of them
is empty, prose never stands beside prose, and every formula has the body
its kind asks for (`wellFormed_of_mem_split`).

The segmentation is also stable: a segment alone is split into itself
(`split_raw_of_mem`). Prose could only turn into a formula by finding a
closing dollar; a formula that is found in a piece of the text is found in
the whole text too (`mathSpan?_append`), so a piece finds no new one.
-/
import Coursebook.Proofs.Segment.Span

namespace Coursebook.Segment

open Text (OccursUnescaped)

/-! ## The steps of the scan -/

theorem split_math {s b r : Text} {k : MathKind} (h : mathSpan? s = some (k, b, r)) :
    split s = math k b :: split r := by
  cases s with
  | nil => simp [mathSpan?] at h
  | cons c s =>
    rw [split.eq_def]
    simp only
    split
    · next k' b' r' h' =>
      rw [h] at h'
      simp only [Option.some.injEq, Prod.mk.injEq] at h'
      obtain ⟨rfl, rfl, rfl⟩ := h'
      rfl
    · next h' => simp [h] at h'

theorem split_prose {c : Char} {s : Text} (h : mathSpan? (c :: s) = none) (hc : c ≠ '\\') :
    split (c :: s) = consProse c (split s) := by
  rw [split.eq_def]
  simp only
  split
  · next h' => simp [h] at h'
  · simp [hc]

theorem split_escape (c : Char) (s : Text) :
    split ('\\' :: c :: s) = consProse '\\' (consProse c (split s)) := by
  have h : mathSpan? ('\\' :: c :: s) = none := mathSpan?_cons_of_ne (by simp) _
  rw [split.eq_def]
  simp only
  split
  · next h' => simp [h] at h'
  · rfl

theorem split_backslash : split ['\\'] = [prose ['\\']] := by
  have h : mathSpan? ['\\'] = none := mathSpan?_cons_of_ne (by simp) _
  rw [split.eq_def]
  simp only
  split
  · next h' => simp [h] at h'
  · rfl

/-- A formula alone is split into itself. -/
theorem IsBody.split_raw {k : MathKind} {b : Text} (h : IsBody k b) : split (math k b).raw = [math k b] := by
  have := h.mathSpan? []
  rw [List.append_nil] at this
  rw [split_math this, split]

/-! ## What the segments look like -/

/-- What a segment of a text looks like. -/
def WellFormed : Segment → Prop
  | prose t => t ≠ []
  | math k b => IsBody k b

theorem WellFormed.raw_ne_nil {g : Segment} (h : g.WellFormed) : g.raw ≠ [] := by
  cases g with
  | prose t => exact h
  | math k b => cases k <;> simp [raw, MathKind.delimiter]

theorem wellFormed_of_mem_consProse {c : Char} {ss : List Segment} (h : ∀ g ∈ ss, g.WellFormed) :
    ∀ g ∈ consProse c ss, g.WellFormed := by
  unfold consProse
  split
  · next t ss =>
    simp only [List.mem_cons, forall_eq_or_imp] at h ⊢
    exact ⟨by simp [WellFormed], h.2⟩
  · simp only [List.mem_cons, forall_eq_or_imp]
    exact ⟨by simp [WellFormed], h⟩

theorem wellFormed_of_mem_split (s : Text) : ∀ g ∈ split s, g.WellFormed := by
  fun_induction split s with
  | case1 => simp
  | case2 c s k b r h ih =>
    simp only [List.mem_cons, forall_eq_or_imp]
    exact ⟨isBody_of_mathSpan? h, ih⟩
  | case3 => simp [WellFormed]
  | case4 d s _ ih => exact wellFormed_of_mem_consProse (wellFormed_of_mem_consProse ih)
  | case5 c s _ _ ih => exact wellFormed_of_mem_consProse ih

/-- Whether no prose stands beside prose. -/
def ProseApart : List Segment → Prop
  | [] => True
  | g :: ss => (g.isMath = true ∨ ∀ h ∈ ss.head?, h.isMath = true) ∧ ProseApart ss

instance ProseApart.decidable : DecidablePred ProseApart
  | [] => .isTrue trivial
  | g :: ss =>
    have := ProseApart.decidable ss
    inferInstanceAs (Decidable ((g.isMath = true ∨ ∀ h ∈ ss.head?, h.isMath = true) ∧ ProseApart ss))

theorem ProseApart.math {ss : List Segment} (h : ProseApart ss) (k : MathKind) (b : Text) :
    ProseApart (math k b :: ss) := ⟨.inl rfl, h⟩

theorem ProseApart.consProse {c : Char} {ss : List Segment} (h : ProseApart ss) : ProseApart (consProse c ss) := by
  unfold Segment.consProse
  split
  · next t ss => exact ⟨h.1, h.2⟩
  · next hss =>
    refine ⟨.inr fun g hg => ?_, h⟩
    cases g with
    | math k b => rfl
    | prose t =>
      obtain ⟨ss', rfl⟩ := List.head?_eq_some_iff.1 hg
      exact absurd rfl (hss t ss')

theorem proseApart_split (s : Text) : ProseApart (split s) := by
  fun_induction split s with
  | case1 => trivial
  | case2 c s k b r h ih => exact ih.math k b
  | case3 => exact ⟨.inr (by simp), trivial⟩
  | case4 d s _ ih => exact ih.consProse.consProse
  | case5 c s _ _ ih => exact ih.consProse

/-! ## Splitting a segment -/

theorem split_consProse {c : Char} {t : Text} (ht : split t = [prose t]) (h : mathSpan? (c :: t) = none)
    (hc : c ≠ '\\') : split (c :: t) = [prose (c :: t)] := by
  rw [split_prose h hc, ht]
  rfl

/-- What a piece of prose is in front of: the text that the rest of the segments makes. -/
theorem eq_append_of_split {s t : Text} {ss : List Segment} (h : split s = prose t :: ss) : s = t ++ joinRaw ss := by
  rw [← Segment.split_raw s, h]
  rfl

theorem split_single (c : Char) : split [c] = [prose [c]] := by
  by_cases hc : c = '\\'
  · rw [hc, split_backslash]
  · have : mathSpan? [c] = none := by
      by_cases hd : c = '$'
      · subst hd
        rfl
      · exact mathSpan?_cons_of_ne hd []
    rw [split_prose this hc, split]
    rfl

/-- Every segment of a text with one more character of prose in front is split into itself, if `c` in
front of that prose starts no formula. -/
theorem split_raw_of_mem_consProse {c : Char} {ss : List Segment} (h : ∀ g ∈ ss, split g.raw = [g])
    (hc : ∀ t, prose t ∈ ss.head? → split (c :: t) = [prose (c :: t)]) :
    ∀ g ∈ consProse c ss, split g.raw = [g] := by
  unfold consProse
  split
  · next t ss =>
    simp only [List.mem_cons, forall_eq_or_imp] at h ⊢
    exact ⟨hc t rfl, h.2⟩
  · simp only [List.mem_cons, forall_eq_or_imp]
    exact ⟨split_single c, h⟩

/-- **A segment alone is split into itself.** -/
theorem split_raw_of_mem (s : Text) : ∀ g ∈ split s, split g.raw = [g] := by
  fun_induction split s with
  | case1 => simp
  | case2 c s k b r h ih =>
    simp only [List.mem_cons, forall_eq_or_imp]
    exact ⟨(isBody_of_mathSpan? h).split_raw, ih⟩
  | case3 => simp [raw, split_backslash]
  | case4 d s _ ih =>
    -- The escaped character joins the prose behind it whatever it is, so both are added at once.
    have key : ∀ t, split t = [prose t] → split ('\\' :: d :: t) = [prose ('\\' :: d :: t)] := by
      intro t ht
      rw [split_escape, ht]
      rfl
    have hd : split ['\\', d] = [prose ['\\', d]] := by
      rw [split_escape, split]
      rfl
    generalize split s = ss at ih
    cases ss with
    | nil => simp [consProse, raw, hd]
    | cons g ss =>
      cases g with
      | math k b =>
        simp only [consProse, List.mem_cons, forall_eq_or_imp] at ih ⊢
        exact ⟨hd, ih⟩
      | prose t =>
        simp only [consProse, List.mem_cons, forall_eq_or_imp] at ih ⊢
        exact ⟨key t ih.1, ih.2⟩
  | case5 c s h hc ih =>
    refine split_raw_of_mem_consProse ih fun t ht => ?_
    have hmem : prose t ∈ split s := List.mem_of_mem_head? ht
    refine split_consProse (ih _ hmem) ?_ hc
    -- A formula at the head of this piece would be one at the head of the whole text.
    cases hm : mathSpan? (c :: t) with
    | none => rfl
    | some p =>
      obtain ⟨k, b, r⟩ := p
      obtain ⟨ss, hss⟩ := List.head?_eq_some_iff.1 ht
      have := mathSpan?_append hm (joinRaw ss)
      rw [List.cons_append, ← eq_append_of_split hss, h] at this
      exact absurd this (by simp)

/-! ## Splitting what was joined -/

/-- Whether a segment keeps its kind and its borders wherever it stands. -/
def Plain : Segment → Prop
  | prose t => t ≠ [] ∧ '$' ∉ t ∧ '\\' ∉ t
  | math k b => IsBody k b

theorem split_prose_append {t : Text} (hd : '$' ∉ t) (hb : '\\' ∉ t) (s : Text) :
    split (t ++ s) = t.foldr consProse (split s) := by
  induction t with
  | nil => rfl
  | cons c t ih =>
    simp only [List.mem_cons, not_or] at hd hb
    rw [List.cons_append, split_prose (mathSpan?_cons_of_ne (Ne.symm hd.1) _) (Ne.symm hb.1), ih hd.2 hb.2]
    rfl

theorem foldr_consProse {t : Text} (ht : t ≠ []) {ss : List Segment} (hs : ∀ g ∈ ss.head?, g.isMath = true) :
    t.foldr consProse ss = prose t :: ss := by
  induction t with
  | nil => exact absurd rfl ht
  | cons c t ih =>
    cases t with
    | nil =>
      cases ss with
      | nil => rfl
      | cons g ss =>
        cases g with
        | math k b => rfl
        | prose t => simp [isMath] at hs
    | cons d t =>
      rw [List.foldr_cons, ih (by simp)]
      rfl

/-- **Plain segments are read back** with the same borders from the text that they make. -/
theorem split_joinRaw {ss : List Segment} (hp : ∀ g ∈ ss, g.Plain) (ha : ProseApart ss) :
    split (joinRaw ss) = ss := by
  induction ss with
  | nil => rw [joinRaw, List.flatMap_nil, split]
  | cons g ss ih =>
    obtain ⟨hg, hss⟩ := List.forall_mem_cons.1 hp
    have hj : joinRaw (g :: ss) = g.raw ++ joinRaw ss := rfl
    have ih := ih hss ha.2
    cases g with
    | math k b => rw [hj, split_math (IsBody.mathSpan? hg _), ih]
    | prose t =>
      obtain ⟨hne, hd, hb⟩ := hg
      have hhead : ∀ g ∈ ss.head?, g.isMath = true := ha.1.resolve_left (by simp [isMath])
      rw [hj, raw, split_prose_append hd hb, ih, foldr_consProse hne hhead]

/-! ## The segmentation -/

/-- **Splitting is a lossless and stable segmentation.** -/
theorem split_segmentation (s : Text) :
    joinRaw (split s) = s ∧ (∀ g ∈ split s, g.raw ≠ [] ∧ split g.raw = [g]) ∧ ProseApart (split s) ∧
      (∀ b, math .inline b ∈ split s → (math .inline b).raw = '$' :: b ++ ['$'] ∧ b ≠ [] ∧
        ¬OccursUnescaped ['$'] b ∧ ¬['\n', '\n'] <:+: b) ∧
      ∀ b, math .display b ∈ split s → (math .display b).raw = '$' :: '$' :: b ++ ['$', '$'] ∧
        ¬OccursUnescaped ['$', '$'] b := by
  have hw := wellFormed_of_mem_split s
  refine ⟨split_raw s, fun g hg => ⟨(hw g hg).raw_ne_nil, split_raw_of_mem s g hg⟩, proseApart_split s, ?_, ?_⟩
  · intro b hb
    obtain ⟨hne, hf, hn⟩ := hw _ hb
    exact ⟨rfl, hne, hf.not_occurs (by simp), hn⟩
  · intro b hb
    exact ⟨rfl, FirstUnescaped.not_occurs (hw _ hb) (by simp)⟩

end Coursebook.Segment
