/-
Changing the formulas of a text. If every body is exchanged for a body of
the same kind, the new text is split into the same segments, with the new
bodies in place of the old ones (`split_mapMath`).

A dollar of the prose looks ahead for its closer, past any formula behind
it. What it finds there is the same in texts that are `Alike`: the next
dollar closes an inline formula, with the same prose in front of it, and no
body can make or hide the two dollars that close a displayed one.
-/
import Coursebook.Proofs.Segment.Split

namespace Coursebook.Segment

open Text (endsEscaped)

/-- Exchanges the body of a formula. -/
def mapBody (f : MathKind → Text → Text) : Segment → Segment
  | prose t => prose t
  | math k b => math k (f k b)

theorem mapMath_eq (f : MathKind → Text → Text) (s : Text) : mapMath f s = joinRaw ((split s).map (mapBody f)) := by
  rw [mapMath, mapSegments, joinRaw, List.flatMap_map]
  refine congrArg (fun g => (split s).flatMap g) (funext fun g => ?_)
  cases g <;> rfl

theorem map_consProse (f : MathKind → Text → Text) (c : Char) (ss : List Segment) :
    (consProse c ss).map (mapBody f) = consProse c (ss.map (mapBody f)) := by
  cases ss with
  | nil => rfl
  | cons g ss => cases g <;> rfl

/-! ## The steps of the search -/

theorem cutUnescaped?_cons {needle : Text} {c : Char} {s : Text} (hc : c ≠ '\\') (hn : ¬needle <+: c :: s) :
    cutUnescaped? needle (c :: s) = (cutUnescaped? needle s).map fun (before, r) => (c :: before, r) := by
  rw [cutUnescaped?.eq_def]
  simp only [Text.after?_eq_none_iff.2 hn, if_neg hc]

theorem cutUnescaped?_escape {needle : Text} {c : Char} {s : Text} (hn : ¬needle <+: '\\' :: c :: s) :
    cutUnescaped? needle ('\\' :: c :: s) = (cutUnescaped? needle s).map fun (before, r) => ('\\' :: c :: before, r) := by
  rw [cutUnescaped?.eq_def]
  simp only [Text.after?_eq_none_iff.2 hn, if_true]

theorem cutUnescaped?_append_self {needle : Text} (hn : needle ≠ []) (s : Text) :
    cutUnescaped? needle (needle ++ s) = some ([], s) :=
  (FirstUnescaped.nil needle).cut hn s

/-- The search goes past a text in which no needle starts. -/
theorem cutUnescaped?_append {needle a t : Text} (ha : endsEscaped a = false)
    (h : ∀ p q, a = p ++ q → q ≠ [] → endsEscaped p = false → ¬needle <+: q ++ t) :
    cutUnescaped? needle (a ++ t) = (cutUnescaped? needle t).map fun (before, r) => (a ++ before, r) := by
  fun_induction endsEscaped a with
  | case1 => simp
  | case2 => simp at ha
  | case3 c s ih =>
    have hn := h [] ('\\' :: c :: s) rfl (by simp) rfl
    have hs := ih ha fun p q hpq hq hp => h ('\\' :: c :: p) q (by simp [hpq]) hq (by simpa using hp)
    rw [List.cons_append, List.cons_append] at hn ⊢
    rw [cutUnescaped?_escape hn, hs, Option.map_map]
    rfl
  | case4 c s h1 h2 ih =>
    have hc : c ≠ '\\' := Text.ne_backslash h1 h2
    have hn := h [] (c :: s) rfl (by simp) rfl
    have hs := ih ha fun p q hpq hq hp => h (c :: p) q (by simp [hpq]) hq (by rwa [Text.endsEscaped_cons hc])
    rw [List.cons_append] at hn ⊢
    rw [cutUnescaped?_cons hc hn, hs, Option.map_map]
    rfl

/-- An occurrence that is not escaped is found, or one in front of it. -/
theorem isSome_cutUnescaped? {a : Text} (needle : Text) (hn : needle ≠ []) (ha : endsEscaped a = false) (r : Text) :
    (cutUnescaped? needle (a ++ needle ++ r)).isSome := by
  fun_induction endsEscaped a with
  | case1 => simp [cutUnescaped?_append_self hn]
  | case2 => simp at ha
  | case3 c s ih =>
    by_cases hp : needle <+: '\\' :: c :: s ++ needle ++ r
    · obtain ⟨t, ht⟩ := hp
      rw [← ht, cutUnescaped?_append_self hn]
      rfl
    · simp only [List.cons_append] at hp ⊢
      rw [cutUnescaped?_escape hp, Option.isSome_map]
      exact ih ha
  | case4 c s h1 h2 ih =>
    have hc : c ≠ '\\' := Text.ne_backslash h1 h2
    by_cases hp : needle <+: c :: s ++ needle ++ r
    · obtain ⟨t, ht⟩ := hp
      rw [← ht, cutUnescaped?_append_self hn]
      rfl
    · simp only [List.cons_append] at hp ⊢
      rw [cutUnescaped?_cons hc hp, Option.isSome_map]
      exact ih ha

/-- The search for two dollars goes past the body of an inline formula. -/
theorem isSome_cutUnescaped?_body {b : Text} (hb : IsBody .inline b) (s : Text) :
    (cutUnescaped? ['$', '$'] (b ++ '$' :: s)).isSome = (cutUnescaped? ['$', '$'] ('$' :: s)).isSome := by
  obtain ⟨-, hf, -⟩ := hb
  have hbody : ∀ p q, b = p ++ q → q ≠ [] → endsEscaped p = false → ¬['$', '$'] <+: q ++ '$' :: s := by
    intro p q hpq hq hp hpre
    cases q with
    | nil => exact hq rfl
    | cons c q =>
      obtain ⟨rfl, -⟩ := List.cons_prefix_cons.1 hpre
      exact hf.not_occurs (by simp) ⟨p, q, by simp [hpq], hp⟩
  rw [cutUnescaped?_append hf.unescaped hbody, Option.isSome_map]

theorem raw_inline_append (b s : Text) : (math .inline b).raw ++ s = '$' :: (b ++ '$' :: s) := by
  simp [raw, MathKind.delimiter]

theorem raw_display_append (b s : Text) : (math .display b).raw ++ s = '$' :: '$' :: (b ++ '$' :: '$' :: s) := by
  simp [raw, MathKind.delimiter]

theorem dollars_prefix_iff (s : Text) : ['$', '$'] <+: '$' :: s ↔ s.head? = some '$' := by
  cases s <;> simp [List.cons_prefix_cons, eq_comm]

/-! ## Texts that are alike -/

/-- Texts with the same prose and formulas of the same kinds in the same places. Not every dollar
belongs to a formula: the prose may have dollars too. -/
inductive Alike : Text → Text → Prop where
  | nil : Alike [] []
  | char {c : Char} {s t : Text} (hc : c ≠ '\\') (h : Alike s t) : Alike (c :: s) (c :: t)
  | backslash : Alike ['\\'] ['\\']
  | escape {s t : Text} (c : Char) (h : Alike s t) : Alike ('\\' :: c :: s) ('\\' :: c :: t)
  | formula {k : MathKind} {b b' s t : Text} (hb : IsBody k b) (hb' : IsBody k b') (h : Alike s t) :
      Alike ((math k b).raw ++ s) ((math k b').raw ++ t)

namespace Alike

variable {s t : Text}

theorem head?_eq (h : Alike s t) : s.head? = t.head? := by
  cases h with
  | @formula k => cases k <;> rfl
  | _ => rfl

/-- The same prose stands in front of the first dollar. -/
theorem cut_dollar (h : Alike s t) : (cutUnescaped? ['$'] s).map Prod.fst = (cutUnescaped? ['$'] t).map Prod.fst := by
  induction h with
  | nil | backslash => rfl
  | @char c s t hc h ih =>
    by_cases hd : c = '$'
    · subst hd
      have hself : ∀ u, cutUnescaped? ['$'] ('$' :: u) = some ([], u) := cutUnescaped?_append_self (by simp)
      rw [hself, hself]
      rfl
    · have hn : ∀ u, ¬['$'] <+: c :: u := fun u hp => hd (List.cons_prefix_cons.1 hp).1.symm
      rw [cutUnescaped?_cons hc (hn s), cutUnescaped?_cons hc (hn t), Option.map_map, Option.map_map]
      simpa [Option.map_map, Function.comp_def] using congrArg (Option.map (c :: ·)) ih
  | @escape s t c h ih =>
    have hn : ∀ u, ¬['$'] <+: '\\' :: u := fun u => by simp [List.cons_prefix_cons]
    rw [cutUnescaped?_escape (hn _), cutUnescaped?_escape (hn _), Option.map_map, Option.map_map]
    simpa [Option.map_map, Function.comp_def] using congrArg (Option.map ('\\' :: c :: ·)) ih
  | @formula k b b' s t =>
    have hraw : ∀ b u, ∃ r, (math k b).raw ++ u = ['$'] ++ r := by
      intro b u
      cases k <;> exact ⟨_, rfl⟩
    obtain ⟨r, hr⟩ := hraw b s
    obtain ⟨r', hr'⟩ := hraw b' t
    rw [hr, hr', cutUnescaped?_append_self (by simp), cutUnescaped?_append_self (by simp)]
    rfl

/-- What `cut_dollars` says stays true with a dollar in front, which makes two with a first one. -/
theorem cut_dollars_cons (h : Alike s t)
    (hst : (cutUnescaped? ['$', '$'] s).isSome = (cutUnescaped? ['$', '$'] t).isSome) :
    (cutUnescaped? ['$', '$'] ('$' :: s)).isSome = (cutUnescaped? ['$', '$'] ('$' :: t)).isSome := by
  have hiff : ['$', '$'] <+: '$' :: s ↔ ['$', '$'] <+: '$' :: t := by
    rw [dollars_prefix_iff, dollars_prefix_iff, h.head?_eq]
  by_cases hp : ['$', '$'] <+: '$' :: s
  · obtain ⟨r, hr⟩ := hp
    obtain ⟨r', hr'⟩ := hiff.1 ⟨r, hr⟩
    rw [← hr, ← hr', cutUnescaped?_append_self (by simp), cutUnescaped?_append_self (by simp)]
    rfl
  · rw [cutUnescaped?_cons (by decide) hp, cutUnescaped?_cons (by decide) (mt hiff.2 hp), Option.isSome_map,
      Option.isSome_map, hst]

/-- Two dollars follow in both texts or in neither. -/
theorem cut_dollars (h : Alike s t) : (cutUnescaped? ['$', '$'] s).isSome = (cutUnescaped? ['$', '$'] t).isSome := by
  induction h with
  | nil | backslash => rfl
  | @char c s t hc h ih =>
    by_cases hd : c = '$'
    · rw [hd]
      exact h.cut_dollars_cons ih
    · have hn : ∀ u, ¬['$', '$'] <+: c :: u := fun u hp => hd (List.cons_prefix_cons.1 hp).1.symm
      rw [cutUnescaped?_cons hc (hn s), cutUnescaped?_cons hc (hn t), Option.isSome_map, Option.isSome_map, ih]
  | @escape s t c h ih =>
    have hn : ∀ u, ¬['$', '$'] <+: '\\' :: u := fun u => by simp [List.cons_prefix_cons]
    rw [cutUnescaped?_escape (hn _), cutUnescaped?_escape (hn _), Option.isSome_map, Option.isSome_map, ih]
  | @formula k b b' s t hb hb' h ih =>
    cases k with
    | inline =>
      have hopen : ∀ {b}, IsBody .inline b → ∀ u, ¬['$', '$'] <+: '$' :: (b ++ '$' :: u) := by
        intro b hb u
        rw [dollars_prefix_iff]
        cases b with
        | nil => exact absurd rfl hb.1
        | cons c b => simpa using hb.ne_dollar
      rw [raw_inline_append, raw_inline_append, cutUnescaped?_cons (by decide) (hopen hb s),
        cutUnescaped?_cons (by decide) (hopen hb' t), Option.isSome_map, Option.isSome_map,
        isSome_cutUnescaped?_body hb, isSome_cutUnescaped?_body hb']
      exact h.cut_dollars_cons ih
    | display =>
      have hself : ∀ u, cutUnescaped? ['$', '$'] ('$' :: '$' :: u) = some ([], u) := cutUnescaped?_append_self (by simp)
      rw [raw_display_append, raw_display_append, hself, hself]
      rfl

/-- Two dollars in front of a text that open nothing. -/
theorem cut_dollars_tail (h : Alike ('$' :: s) ('$' :: t)) (hs : cutUnescaped? ['$', '$'] s = none) :
    cutUnescaped? ['$', '$'] t = none := by
  generalize hu : '$' :: s = u at h
  generalize hv : '$' :: t = v at h
  cases h with
  | nil | backslash | escape => simp at hu
  | char hc h =>
    obtain ⟨rfl, rfl⟩ := List.cons.inj hu
    obtain ⟨-, rfl⟩ := List.cons.inj hv
    have := h.cut_dollars
    rwa [hs, eq_comm, Option.isSome_none, Option.isSome_eq_false_iff, Option.isNone_iff_eq_none] at this
  | @formula k b b' s' t' hb hb' h =>
    cases k with
    | inline =>
      rw [raw_inline_append] at hu hv
      obtain ⟨-, rfl⟩ := List.cons.inj hu
      obtain ⟨-, rfl⟩ := List.cons.inj hv
      have := h.cut_dollars_cons h.cut_dollars
      rw [← isSome_cutUnescaped?_body hb, ← isSome_cutUnescaped?_body hb', hs] at this
      rwa [eq_comm, Option.isSome_none, Option.isSome_eq_false_iff, Option.isNone_iff_eq_none] at this
    | display =>
      -- The two dollars and the one in front would open a formula.
      rw [raw_display_append] at hu
      obtain ⟨-, rfl⟩ := List.cons.inj hu
      have hf : FirstUnescaped ['$', '$'] b := hb
      have hb : endsEscaped ('$' :: b) = false := (Text.endsEscaped_cons (by decide) b).trans hf.unescaped
      have := isSome_cutUnescaped? ['$', '$'] (by simp) hb s'
      rw [List.append_assoc, List.cons_append, List.cons_append, List.cons_append, List.nil_append, hs] at this
      exact absurd this (by simp)

/-- **A dollar that opens nothing opens nothing in front of a text that is alike.** -/
theorem mathSpan?_dollar (h : Alike s t) (hs : mathSpan? ('$' :: s) = none) : mathSpan? ('$' :: t) = none := by
  by_cases hhead : s.head? = some '$'
  · obtain ⟨s', rfl⟩ := List.head?_eq_some_iff.1 hhead
    obtain ⟨t', rfl⟩ := List.head?_eq_some_iff.1 (h.head?_eq.symm.trans hhead)
    have hspan : ∀ u, mathSpan? ('$' :: '$' :: u) = none ↔ cutUnescaped? ['$', '$'] u = none := fun u => by
      simp [mathSpan?]
    rw [hspan] at hs ⊢
    exact h.cut_dollars_tail hs
  · have hne : ∀ u : Text, u.head? ≠ some '$' → ∀ v, u ≠ '$' :: v := by
      rintro _ hu v rfl
      exact hu rfl
    rw [mathSpan?_inline (hne s hhead)] at hs
    rw [mathSpan?_inline (hne t (h.head?_eq ▸ hhead))]
    have hcut := h.cut_dollar
    cases hct : cutUnescaped? ['$'] t with
    | none => rfl
    | some q =>
      obtain ⟨p, hp, hpq⟩ := Option.map_eq_some_iff.1 (hcut.trans (by rw [hct]; rfl))
      simp only [hp, ite_eq_left_iff, reduceCtorEq, imp_false, Decidable.not_not] at hs
      simp only [← hpq, if_pos hs]

end Alike

/-! ## Changing the bodies -/

variable {f : MathKind → Text → Text}

theorem math_mem_consProse {c : Char} {ss : List Segment} {k : MathKind} {b : Text} :
    math k b ∈ consProse c ss ↔ math k b ∈ ss := by
  unfold consProse
  split <;> simp

theorem mapMath_math {s b r : Text} {k : MathKind} (h : mathSpan? s = some (k, b, r)) :
    mapMath f s = (math k (f k b)).raw ++ mapMath f r := by
  rw [mapMath_eq, mapMath_eq, split_math h]
  rfl

theorem mapMath_prose {c : Char} {s : Text} (h : mathSpan? (c :: s) = none) (hc : c ≠ '\\') :
    mapMath f (c :: s) = c :: mapMath f s := by
  rw [mapMath_eq, mapMath_eq, split_prose h hc, map_consProse, joinRaw_consProse]

theorem mapMath_escape (c : Char) (s : Text) : mapMath f ('\\' :: c :: s) = '\\' :: c :: mapMath f s := by
  rw [mapMath_eq, mapMath_eq, split_escape, map_consProse, map_consProse, joinRaw_consProse, joinRaw_consProse]

/-- A text is alike with the changed text, if bodies are exchanged for bodies. -/
theorem alike_mapMath {s : Text} (h : ∀ k b, math k b ∈ split s → IsBody k (f k b)) : Alike s (mapMath f s) := by
  fun_induction split s with
  | case1 =>
    rw [mapMath_eq, split]
    exact .nil
  | case2 c s k b r hspan ih =>
    rw [mapMath_math hspan, eq_of_mathSpan? hspan]
    exact .formula (isBody_of_mathSpan? hspan) (h k b List.mem_cons_self)
      (ih fun k' b' hb' => h k' b' (List.mem_cons_of_mem _ hb'))
  | case3 =>
    rw [mapMath_eq, split_backslash]
    exact .backslash
  | case4 d s _ ih =>
    rw [mapMath_escape]
    exact .escape d (ih fun k b hb => h k b (math_mem_consProse.2 (math_mem_consProse.2 hb)))
  | case5 c s hspan hc ih =>
    rw [mapMath_prose hspan hc]
    exact .char hc (ih fun k b hb => h k b (math_mem_consProse.2 hb))

/-- **A text whose formulas get other bodies is split in the same places.** -/
theorem split_mapMath {s : Text} (h : ∀ k b, math k b ∈ split s → IsBody k (f k b)) :
    split (mapMath f s) = (split s).map (mapBody f) := by
  fun_induction split s with
  | case1 => rw [mapMath_eq, split, List.map_nil, joinRaw, List.flatMap_nil, split]
  | case2 c s k b r hspan ih =>
    have hbody := h k b List.mem_cons_self
    rw [mapMath_math hspan, split_math (hbody.mathSpan? _), ih fun k' b' hb' => h k' b' (List.mem_cons_of_mem _ hb')]
    rfl
  | case3 =>
    rw [mapMath_eq, split_backslash]
    exact split_backslash
  | case4 d s _ ih =>
    rw [mapMath_escape, split_escape, map_consProse, map_consProse,
      ih fun k b hb => h k b (math_mem_consProse.2 (math_mem_consProse.2 hb))]
  | case5 c s hspan hc ih =>
    have h' : ∀ k b, math k b ∈ split s → IsBody k (f k b) := fun k b hb => h k b (math_mem_consProse.2 hb)
    have hspan' : mathSpan? (c :: mapMath f s) = none := by
      by_cases hd : c = '$'
      · subst hd
        exact (alike_mapMath h').mathSpan?_dollar hspan
      · exact mathSpan?_cons_of_ne hd _
    rw [mapMath_prose hspan hc, split_prose hspan' hc, map_consProse, ih h']

/-! ## Pieces without dollars -/

/-- A piece without dollars stands in the body of a formula or behind it. -/
theorem infix_math_append {w : Text} (hne : w ≠ []) (hw : '$' ∉ w) (k : MathKind) (b s : Text) :
    w <:+: (math k b).raw ++ s ↔ w <:+: b ∨ w <:+: s := by
  have hdollar : ∀ t, w <:+: '$' :: t ↔ w <:+: t := by
    intro t
    have hcut := Text.infix_append_cons hw [] t
    rw [List.nil_append, List.infix_nil] at hcut
    simpa [hne] using hcut
  cases k with
  | inline => rw [raw_inline_append, hdollar, Text.infix_append_cons hw]
  | display => rw [raw_display_append, hdollar, hdollar, Text.infix_append_cons hw, hdollar]

/-- What holds of the heads of two texts holds with one more character in front of both. -/
theorem prefix_cons_of {c : Char} {w s t : Text} (hw : '$' ∉ w) (h : ∀ v, '$' ∉ v → v <+: t → v <+: s)
    (hp : w <+: c :: t) : w <+: c :: s := by
  cases w with
  | nil => exact List.nil_prefix
  | cons d w =>
    rw [List.cons_prefix_cons] at hp ⊢
    exact ⟨hp.1, h w (fun hd => hw (List.mem_cons_of_mem d hd)) hp.2⟩

/-- Up to its first dollar a text with other formulas is the text itself. -/
theorem prefix_mapMath (s : Text) : ∀ w, '$' ∉ w → w <+: mapMath f s → w <+: s := by
  fun_induction split s with
  | case1 =>
    rw [mapMath_eq, split]
    exact fun w _ h => h
  | case2 c s k b r hspan ih =>
    intro w hw h
    obtain ⟨u, hu⟩ : ∃ u, mapMath f (c :: s) = '$' :: u := by
      rw [mapMath_math hspan]
      cases k <;> exact ⟨_, rfl⟩
    cases w with
    | nil => exact List.nil_prefix
    | cons d w =>
      rw [hu, List.cons_prefix_cons] at h
      exact absurd (h.1 ▸ List.mem_cons_self) hw
  | case3 =>
    rw [mapMath_eq, split_backslash]
    exact fun w _ h => h
  | case4 d s _ ih =>
    rw [mapMath_escape]
    exact fun w hw => prefix_cons_of hw fun v hv => prefix_cons_of hv ih
  | case5 c s hspan hc ih =>
    rw [mapMath_prose hspan hc]
    exact fun w hw => prefix_cons_of hw ih

/-- A piece without dollars comes into a text only in the body of a formula. -/
theorem infix_mapMath {w s : Text} (hne : w ≠ []) (hw : '$' ∉ w)
    (hf : ∀ k b, math k b ∈ split s → w <:+: f k b → w <:+: b) (h : w <:+: mapMath f s) : w <:+: s := by
  have hcons : ∀ {c : Char} {s : Text}, (w <:+: mapMath f s → w <:+: s) → w <:+: c :: mapMath f s →
      w <:+: c :: s := by
    intro c s ih h
    rw [List.infix_cons_iff] at h ⊢
    exact h.imp (prefix_cons_of hw (prefix_mapMath s)) ih
  fun_induction split s with
  | case1 => rwa [mapMath_eq, split] at h
  | case2 c s k b r hspan ih =>
    rw [mapMath_math hspan, infix_math_append hne hw] at h
    rw [eq_of_mathSpan? hspan, infix_math_append hne hw]
    exact h.imp (hf k b List.mem_cons_self) (ih fun k' b' hb' => hf k' b' (List.mem_cons_of_mem _ hb'))
  | case3 => rwa [mapMath_eq, split_backslash] at h
  | case4 d s _ ih =>
    rw [mapMath_escape] at h
    have hs := ih fun k b hb => hf k b (math_mem_consProse.2 (math_mem_consProse.2 hb))
    rw [List.infix_cons_iff] at h ⊢
    exact h.imp (prefix_cons_of hw fun v hv => prefix_cons_of hv (prefix_mapMath s)) (hcons hs)
  | case5 c s hspan hc ih =>
    rw [mapMath_prose hspan hc] at h
    exact hcons (ih fun k b hb => hf k b (math_mem_consProse.2 hb)) h

end Coursebook.Segment
