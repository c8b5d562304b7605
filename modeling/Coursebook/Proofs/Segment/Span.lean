/-
What the two cutters of `Coursebook.Segment` find, said without them.

`cutUnescaped?_eq_some_iff`: the cut is at the first needle that no
backslash escapes. `mathSpan?_eq_some_iff`: a text starts with a formula if
it starts with a body between the dollars of its kind, where `IsBody` says
what a body may be. Neither looks at what follows the formula, so a formula
is read the same wherever it stands.
-/
import Coursebook.Segment
import Coursebook.Proofs.Text.Escape

namespace Coursebook.Segment

open Text (endsEscaped OccursUnescaped)

/-! ## The first unescaped needle -/

/-- A needle behind `a` is not escaped, and none stands there earlier. -/
structure FirstUnescaped (needle a : Text) : Prop where
  unescaped : endsEscaped a = false
  first : ∀ b, b ++ needle <+: a ++ needle → endsEscaped b = false → b = a

/-- A needle at the head of a text is the first one. -/
theorem FirstUnescaped.nil (needle : Text) : FirstUnescaped needle [] where
  unescaped := rfl
  first b hb _ := by
    have := hb.length_le
    simp only [List.length_append, List.nil_append] at this
    exact List.eq_nil_of_length_eq_zero (by omega)

theorem FirstUnescaped.cons {needle a : Text} {c : Char} (h : FirstUnescaped needle a) (hc : c ≠ '\\')
    (hn : ¬needle <+: c :: (a ++ needle)) : FirstUnescaped needle (c :: a) where
  unescaped := (Text.endsEscaped_cons hc a).trans h.unescaped
  first b hb he := by
    cases b with
    | nil => exact absurd hb hn
    | cons d b =>
      rw [List.cons_append, List.cons_append, List.cons_prefix_cons] at hb
      obtain ⟨rfl, hb⟩ := hb
      rw [Text.endsEscaped_cons hc] at he
      rw [h.first b hb he]

theorem FirstUnescaped.escape {needle a : Text} {c : Char} (h : FirstUnescaped needle a)
    (hn : ¬needle <+: '\\' :: c :: (a ++ needle)) : FirstUnescaped needle ('\\' :: c :: a) where
  unescaped := h.unescaped
  first b hb he := by
    cases b with
    | nil => exact absurd hb hn
    | cons d b =>
      cases b with
      | nil =>
        rw [List.cons_append, List.cons_append, List.cons_prefix_cons] at hb
        simp [hb.1] at he
      | cons e b =>
        simp only [List.cons_append, List.cons_prefix_cons] at hb
        obtain ⟨rfl, rfl, hb⟩ := hb
        rw [h.first b hb (by simpa using he)]

/-- No needle stands unescaped in front of the first one. -/
theorem FirstUnescaped.not_occurs {needle a : Text} (h : FirstUnescaped needle a) (hn : needle ≠ []) :
    ¬OccursUnescaped needle a := by
  rintro ⟨b, r, rfl, hb⟩
  have := congrArg List.length (h.first b ⟨r ++ needle, by simp⟩ hb)
  have := List.length_pos_iff.2 hn
  simp only [List.length_append] at *
  omega

/-- A needle that starts nowhere in `a` is the first one behind it. -/
theorem FirstUnescaped.intro {needle a : Text} (ha : endsEscaped a = false)
    (h : ∀ t, t <:+ a → t ≠ [] → ¬needle <+: t ++ needle) : FirstUnescaped needle a where
  unescaped := ha
  first b hb _ := by
    have hlen := hb.length_le
    simp only [List.length_append] at hlen
    obtain ⟨t, rfl⟩ : b <+: a :=
      List.prefix_of_prefix_length_le ((List.prefix_append b needle).trans hb) (List.prefix_append a needle) (by omega)
    rw [List.append_assoc, List.prefix_append_right_inj] at hb
    by_cases ht : t = []
    · simp [ht]
    · exact absurd hb (h t (List.suffix_append b t) ht)

/-- The head of a body, if no backslash is left at its end. -/
theorem FirstUnescaped.of_prefix {a b : Text} (h : FirstUnescaped ['$'] b) (ha : a <+: b)
    (hlast : a.getLast? ≠ some '\\') : FirstUnescaped ['$'] a where
  unescaped := Text.endsEscaped_eq_false hlast
  first c hc he := by
    rcases Nat.lt_or_ge c.length a.length with hlt | hge
    · -- A dollar inside of `a` would be one inside of `b`.
      have hca : c ++ ['$'] <+: a :=
        List.prefix_of_prefix_length_le hc (List.prefix_append a _) (by simp; omega)
      have hcb := h.first c ((hca.trans ha).trans (List.prefix_append b _)) he
      have := congrArg List.length hcb
      have := ha.length_le
      omega
    · have hlen := hc.length_le
      simp only [List.length_append, List.length_singleton] at hlen
      exact List.append_cancel_right (hc.eq_of_length (by simp; omega))

/-- A needle whose first character is not in `a` is the first one behind it, if `a` does not escape it. -/
theorem FirstUnescaped.of_unescaped {c : Char} {needle a : Text} (ha : endsEscaped a = false) (hc : c ∉ a) :
    FirstUnescaped (c :: needle) a := by
  refine .intro ha fun t ht hne hp => ?_
  cases t with
  | nil => exact hne rfl
  | cons d t =>
    rw [List.cons_append, List.cons_prefix_cons] at hp
    exact hc (hp.1 ▸ ht.subset List.mem_cons_self)

theorem FirstUnescaped.of_not_mem {c : Char} {needle a : Text} (ha : a.getLast? ≠ some '\\') (hc : c ∉ a) :
    FirstUnescaped (c :: needle) a := .of_unescaped (Text.endsEscaped_eq_false ha) hc

/-- A closing mark that is not in `a` is the first one behind it. -/
theorem FirstUnescaped.of_not_infix {c : Char} {a : Text} (ha : a.getLast? ≠ some '\\') (hc : c ≠ '\\')
    (h : ¬['\\', c] <:+: a) : FirstUnescaped ['\\', c] a := by
  refine .intro (Text.endsEscaped_eq_false ha) fun t ht hne hp => ?_
  cases t with
  | nil => exact hne rfl
  | cons d t =>
    cases t with
    | nil => simp [List.cons_prefix_cons, hc] at hp
    | cons e t =>
      simp only [List.cons_append, List.cons_prefix_cons] at hp
      obtain ⟨rfl, rfl, -⟩ := hp
      exact h (List.IsInfix.trans ⟨[], t, rfl⟩ ht.isInfix)

theorem firstUnescaped_of_cut {needle s a r : Text} (h : cutUnescaped? needle s = some (a, r)) :
    FirstUnescaped needle a := by
  fun_induction cutUnescaped? needle s generalizing a with
  | case1 => simp at h
  | case2 c s r' hr =>
    simp only [Option.some.injEq, Prod.mk.injEq] at h
    rw [← h.1]
    exact .nil needle
  | case3 => simp at h
  | case4 d s hr ih =>
    simp only [Option.map_eq_some_iff, Prod.mk.injEq, Prod.exists] at h
    obtain ⟨b, r', hb, rfl, rfl⟩ := h
    refine (ih hb).escape fun hp => Text.after?_eq_none_iff.1 hr (hp.trans ?_)
    exact ⟨r', by simp [eq_of_cutUnescaped? hb]⟩
  | case5 c s hr hc ih =>
    simp only [Option.map_eq_some_iff, Prod.mk.injEq, Prod.exists] at h
    obtain ⟨b, r', hb, rfl, rfl⟩ := h
    refine (ih hb).cons hc fun hp => Text.after?_eq_none_iff.1 hr (hp.trans ?_)
    exact ⟨r', by simp [eq_of_cutUnescaped? hb]⟩

theorem FirstUnescaped.cut {needle a : Text} (h : FirstUnescaped needle a) (hn : needle ≠ []) (r : Text) :
    cutUnescaped? needle (a ++ needle ++ r) = some (a, r) := by
  generalize hs : a ++ needle ++ r = s
  fun_induction cutUnescaped? needle s generalizing a with
  | case1 => simp [hn] at hs
  | case2 c s r' hr =>
    have h1 : [] ++ needle <+: c :: s := ⟨r', (Text.after?_eq_some.1 hr).symm⟩
    have h2 : a ++ needle <+: c :: s := ⟨r, hs⟩
    obtain rfl := h.first [] (List.prefix_of_prefix_length_le h1 h2 (by simp)) rfl
    rw [← hs, List.nil_append, Text.after?_append] at hr
    simpa using hr.symm
  | case3 hr =>
    have hlen := congrArg List.length hs
    have := List.length_pos_iff.2 hn
    simp only [List.length_append, List.length_singleton] at hlen
    obtain rfl : a = [] := List.eq_nil_of_length_eq_zero (by omega)
    rw [List.nil_append] at hs
    exact absurd ⟨r, hs⟩ (Text.after?_eq_none_iff.1 hr)
  | case4 d s hr ih =>
    have hn' := Text.after?_eq_none_iff.1 hr
    cases a with
    | nil => exact absurd ⟨r, hs⟩ hn'
    | cons e a =>
      cases a with
      | nil =>
        obtain ⟨rfl, -⟩ := List.cons.inj hs
        simpa using h.unescaped
      | cons f a =>
        simp only [List.cons_append, List.cons.injEq] at hs
        obtain ⟨rfl, rfl, hs⟩ := hs
        have ha : FirstUnescaped needle a := by
          refine ⟨by simpa using h.unescaped, fun b hb he => ?_⟩
          have := h.first ('\\' :: f :: b) (by simpa [List.cons_prefix_cons] using hb) (by simpa using he)
          simpa using this
        simp [ih ha hs]
  | case5 c s hr hc ih =>
    have hn' := Text.after?_eq_none_iff.1 hr
    cases a with
    | nil => exact absurd ⟨r, hs⟩ hn'
    | cons e a =>
      simp only [List.cons_append, List.cons.injEq] at hs
      obtain ⟨rfl, hs⟩ := hs
      have ha : FirstUnescaped needle a := by
        refine ⟨by simpa [Text.endsEscaped_cons hc] using h.unescaped, fun b hb he => ?_⟩
        have := h.first (e :: b) (by simpa [List.cons_prefix_cons] using hb)
          (by simpa [Text.endsEscaped_cons hc] using he)
        simpa using this
      simp [ih ha hs]

/-- **The cut is at the first unescaped needle**, whatever follows it. -/
theorem cutUnescaped?_eq_some_iff {needle s a r : Text} (hn : needle ≠ []) :
    cutUnescaped? needle s = some (a, r) ↔ s = a ++ needle ++ r ∧ FirstUnescaped needle a := by
  constructor
  · exact fun h => ⟨eq_of_cutUnescaped? h, firstUnescaped_of_cut h⟩
  · rintro ⟨rfl, h⟩
    exact h.cut hn r

/-! ## Bodies -/

/-- What stands between the dollars of a formula. -/
def IsBody : MathKind → Text → Prop
  | .inline, b => b ≠ [] ∧ FirstUnescaped ['$'] b ∧ ¬['\n', '\n'] <:+: b
  | .display, b => FirstUnescaped ['$', '$'] b

/-- The body of an inline formula does not start with a dollar. -/
theorem IsBody.ne_dollar {c : Char} {b : Text} (h : IsBody .inline (c :: b)) : c ≠ '$' := by
  rintro rfl
  exact absurd (h.2.1.first [] (by simp [List.cons_prefix_cons]) rfl) (by simp)

theorem mathSpan?_inline {s : Text} (hs : ∀ t, s ≠ '$' :: t) :
    mathSpan? ('$' :: s) = match cutUnescaped? ['$'] s with
      | some (body, r) => if body = [] ∨ Text.contains ['\n', '\n'] body then none else some (.inline, body, r)
      | none => none :=
  mathSpan?.eq_2 s hs

theorem isBody_of_mathSpan? {s b r : Text} {k : MathKind} (h : mathSpan? s = some (k, b, r)) : IsBody k b := by
  unfold mathSpan? at h
  split at h
  · simp only [Option.map_eq_some_iff, Prod.mk.injEq, Prod.exists] at h
    obtain ⟨b', r', hb, rfl, rfl, rfl⟩ := h
    exact firstUnescaped_of_cut hb
  · split at h
    · next b' r' hb =>
      split at h
      · simp at h
      · next hbody =>
        simp only [Option.some.injEq, Prod.mk.injEq] at h
        obtain ⟨rfl, rfl, rfl⟩ := h
        rw [not_or, Text.contains_iff] at hbody
        exact ⟨hbody.1, firstUnescaped_of_cut hb, hbody.2⟩
    · simp at h
  · simp at h

theorem IsBody.mathSpan? {k : MathKind} {b : Text} (h : IsBody k b) (r : Text) :
    mathSpan? ((math k b).raw ++ r) = some (k, b, r) := by
  cases k with
  | display =>
    have := FirstUnescaped.cut h (by simp) r
    simp only [List.append_assoc, List.cons_append, List.nil_append] at this
    simp [raw, MathKind.delimiter, Segment.mathSpan?, this]
  | inline =>
    obtain ⟨hne, hf, hb⟩ := h
    have := hf.cut (by simp) r
    simp only [List.append_assoc, List.cons_append, List.nil_append] at this
    cases b with
    | nil => exact absurd rfl hne
    | cons c b =>
      have hc : c ≠ '$' := IsBody.ne_dollar ⟨hne, hf, hb⟩
      show Segment.mathSpan? ('$' :: (c :: b ++ ['$'] ++ r)) = _
      rw [mathSpan?_inline (by simp [hc]), List.append_assoc]
      rw [← Text.contains_iff] at hb
      simp only [List.cons_append, List.nil_append] at this ⊢
      rw [this]
      simp [hb]

/-- **A formula is read** exactly where a body stands between dollars of its kind. -/
theorem mathSpan?_eq_some_iff {s b r : Text} {k : MathKind} :
    mathSpan? s = some (k, b, r) ↔ s = (math k b).raw ++ r ∧ IsBody k b := by
  constructor
  · exact fun h => ⟨eq_of_mathSpan? h, isBody_of_mathSpan? h⟩
  · rintro ⟨rfl, h⟩
    exact h.mathSpan? r

/-- More text behind a formula does not change how it is read. -/
theorem mathSpan?_append {s b r : Text} {k : MathKind} (h : mathSpan? s = some (k, b, r)) (t : Text) :
    mathSpan? (s ++ t) = some (k, b, r ++ t) := by
  obtain ⟨rfl, hb⟩ := mathSpan?_eq_some_iff.1 h
  exact mathSpan?_eq_some_iff.2 ⟨by simp, hb⟩

theorem mathSpan?_cons_of_ne {c : Char} (hc : c ≠ '$') (s : Text) : mathSpan? (c :: s) = none := by
  unfold mathSpan?
  split <;> simp_all

end Coursebook.Segment
