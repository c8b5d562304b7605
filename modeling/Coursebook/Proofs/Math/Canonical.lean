/-
Canonical text. In a text without the openers of other notations, the
formulas that are brought into canonical form are the formulas that the text
is split into. The two scanners do not go the same way: one takes a backslash
with whatever follows it, the other knows two escapes and copies all else
character by character. They meet behind every escape
(`DollarsOnly.canonicalize_escape`), so they see the same dollars.

So canonical form is only a change of inline bodies, which lose their padding
(`canonicalize_eq_mapMath`). What is left is a body again, and the prose around
it stays as it is: the same formulas are found once more, and there is
nothing left to trim.
-/
import Coursebook.Proofs.Math.Interchange
import Coursebook.Proofs.Math.Repair
import Mathlib.Data.List.DropRight

namespace Coursebook.Math

open Segment (prose math split joinRaw mapBody mapMath IsBody)

/-- The marks that open a formula or an environment without a dollar. -/
def openers : List Text := [['\\', '('], ['\\', '['], Environment.beginMark]

/-- Whether nothing but dollars may open a formula in a text. -/
def DollarsOnly (s : Text) : Prop := ∀ m ∈ openers, ¬m <:+: s

instance : DecidablePred DollarsOnly := fun s => inferInstanceAs (Decidable (∀ m ∈ openers, ¬m <:+: s))

theorem DollarsOnly.of_suffix {s t : Text} (h : DollarsOnly s) (ht : t <:+ s) : DollarsOnly t := fun m hm hi =>
  h m hm (hi.trans ht.isInfix)

/-! ## One step -/

theorem canonicalize_literal {c : Char} (hc : c = '\\' ∨ c = '$') (s : Text) :
    canonicalize ('\\' :: c :: s) = '\\' :: c :: canonicalize s := by
  have htoken : literalToken? ('\\' :: c :: s) = some (['\\', c], s) := by
    rcases hc with rfl | rfl <;> rfl
  exact Text.replaceMatches_some (show _ = some (['\\', c], s) by rw [htoken]) (by simp)

/-- A character that starts neither a literal token nor a formula is copied. -/
theorem canonicalize_none {c : Char} {s : Text} (ht : literalToken? (c :: s) = none) (hf : formula? (c :: s) = none) :
    canonicalize (c :: s) = c :: canonicalize s := by
  refine Text.replaceMatches_none ?_
  simp only [ht, hf]

theorem read?_eq_none {s : Text} (h : ¬Environment.beginMark <+: s) : Environment.read? s = none := by
  simp [Environment.read?, Text.after?_eq_none_iff.2 h]

/-- No other notation starts at a backslash. -/
theorem DollarsOnly.formula?_backslash {s : Text} (h : DollarsOnly ('\\' :: s)) : formula? ('\\' :: s) = none := by
  have hnone : ∀ m ∈ openers, ¬m <+: '\\' :: s := fun m hm hp => h m hm hp.isInfix
  have hread := read?_eq_none (hnone _ (by simp [openers]))
  rw [formula?]
  · rw [hread]
    rfl
  · rintro t rfl
    exact hnone ['\\', '('] (by simp [openers]) ⟨t, rfl⟩
  · rintro t rfl
    exact hnone ['\\', '['] (by simp [openers]) ⟨t, rfl⟩

/-- A backslash and the character behind it are copied, whatever the character is. -/
theorem DollarsOnly.canonicalize_escape {c : Char} {s : Text} (h : DollarsOnly ('\\' :: c :: s)) :
    canonicalize ('\\' :: c :: s) = '\\' :: c :: canonicalize s := by
  by_cases hb : c = '\\'
  · exact canonicalize_literal (.inl hb) s
  by_cases hd : c = '$'
  · exact canonicalize_literal (.inr hd) s
  have htoken : literalToken? ('\\' :: c :: s) = none := by
    unfold literalToken?
    split <;> simp_all
  rw [canonicalize_none htoken h.formula?_backslash, canonicalize_copy hd hb]

theorem DollarsOnly.canonicalize_backslash (h : DollarsOnly ['\\']) : canonicalize ['\\'] = ['\\'] := by
  rw [canonicalize_none rfl h.formula?_backslash, canonicalize, Text.replaceMatches]

/-- A dollar that opens no formula is copied. -/
theorem canonicalize_dollar_none {s : Text} (h : Segment.mathSpan? ('$' :: s) = none) :
    canonicalize ('$' :: s) = '$' :: canonicalize s := by
  refine canonicalize_none rfl ?_
  rw [formula?, h]

/-! ## Bodies -/

/-- A body in canonical form: an inline body without its padding, if anything else is in it. -/
def canonicalBody : MathKind → Text → Text
  | .inline, b => if inlineBody b = [] then b else inlineBody b
  | .display, b => b

theorem inlineSpan_eq (b : Text) : inlineSpan b (math .inline b).raw = (math .inline (canonicalBody .inline b)).raw := by
  unfold inlineSpan
  split
  · next h => rw [canonicalBody, if_pos h]
  · next h => rw [canonicalBody, if_neg h]

theorem infix_inlineBody (b : Text) : inlineBody b <:+: b := by
  rw [inlineBody]
  split
  · exact (Text.trimStart_suffix b).isInfix
  · exact Text.trim_infix b

theorem inlineBody_inlineBody (b : Text) : inlineBody (inlineBody b) = inlineBody b := by
  by_cases hlast : (Text.trim b).getLast? = some '\\'
  · have hbody : inlineBody b = Text.trimStart b := if_pos hlast
    have hstart : Text.trimStart (Text.trimStart b) = Text.trimStart b := List.dropWhile_idempotent ..
    rw [hbody, inlineBody, hstart]
    exact if_pos hlast
  · have hbody : inlineBody b = Text.trim b := if_neg hlast
    have htrim : Text.trimEnd (Text.trimStart (Text.trim b)) = Text.trim b := Text.trim_trim b
    rw [hbody, inlineBody, htrim]
    exact if_neg hlast

theorem infix_canonicalBody (k : MathKind) (b : Text) : canonicalBody k b <:+: b := by
  cases k with
  | display => exact List.infix_rfl
  | inline =>
    rw [canonicalBody]
    split
    · exact List.infix_rfl
    · exact infix_inlineBody b

theorem canonicalBody_canonicalBody (k : MathKind) (b : Text) : canonicalBody k (canonicalBody k b) = canonicalBody k b := by
  cases k with
  | display => rfl
  | inline =>
    by_cases h : inlineBody b = []
    · simp only [canonicalBody, h, if_true]
    · simp only [canonicalBody, h, if_false, inlineBody_inlineBody]

theorem isBody_canonicalBody {k : MathKind} {b : Text} (h : IsBody k b) : IsBody k (canonicalBody k b) := by
  cases k with
  | display => exact h
  | inline =>
    rw [canonicalBody]
    split
    · exact h
    · next hne =>
      obtain ⟨-, hclose, hline⟩ := h
      refine isBody_inlineBody hclose hline ?_
      rw [← Bool.not_eq_true]
      exact mt inlineBody_blank hne

/-! ## The whole text -/

/-- **Canonical form changes the bodies of the formulas** and nothing else. -/
theorem canonicalize_eq_mapMath {s : Text} (h : DollarsOnly s) : canonicalize s = mapMath canonicalBody s := by
  fun_induction split s with
  | case1 => rw [canonicalize, Text.replaceMatches, Segment.mapMath_eq, split]; rfl
  | case2 c s k b r hspan ih =>
    have hs := Segment.eq_of_mathSpan? hspan
    have ih := ih (h.of_suffix ⟨_, hs.symm⟩)
    have hlength := Segment.length_of_mathSpan? hspan
    obtain rfl : c = '$' := by
      cases k <;> exact (List.cons.inj hs).1
    rw [Segment.mapMath_math hspan, ← ih]
    cases k with
    | inline => rw [canonicalize_formula rfl (formula?_inline hspan) hlength, inlineSpan_eq]
    | display => rw [canonicalize_formula rfl (formula?_display hspan) hlength]; rfl
  | case3 => rw [h.canonicalize_backslash, Segment.mapMath_eq, Segment.split_backslash]; rfl
  | case4 d s _ ih =>
    rw [h.canonicalize_escape, Segment.mapMath_escape, ih (h.of_suffix ⟨['\\', d], rfl⟩)]
  | case5 c s hspan hc ih =>
    rw [Segment.mapMath_prose hspan hc, ← ih (h.of_suffix (List.suffix_cons c s))]
    by_cases hd : c = '$'
    · subst hd
      exact canonicalize_dollar_none hspan
    · exact canonicalize_copy hd hc s

/-- No opener arises: a body only loses what stands at its ends. -/
theorem DollarsOnly.canonicalize {s : Text} (h : DollarsOnly s) : DollarsOnly (canonicalize s) := by
  have hopeners : ∀ m ∈ openers, m ≠ [] ∧ '$' ∉ m := by decide
  intro m hm hi
  rw [canonicalize_eq_mapMath h] at hi
  obtain ⟨hne, hdollar⟩ := hopeners m hm
  exact h m hm (Segment.infix_mapMath hne hdollar (fun k b _ hb => hb.trans (infix_canonicalBody k b)) hi)

/-- What a segment is written as in canonical text: an inline formula without its padding, if anything else
is in it, and every other segment as it is. -/
def canonicalRaw : Segment → Text
  | .math .inline b => if inlineBody b = [] then (math .inline b).raw else '$' :: inlineBody b ++ ['$']
  | g => g.raw

theorem canonicalRaw_eq (g : Segment) : canonicalRaw g = (mapBody canonicalBody g).raw := by
  cases g with
  | prose t => rfl
  | math k b =>
    cases k with
    | display => rfl
    | inline =>
      by_cases h : inlineBody b = []
      · simp only [canonicalRaw, mapBody, canonicalBody, h, if_true]
      · simp only [canonicalRaw, mapBody, canonicalBody, h, if_false]
        rfl

/-- **The two scanners agree**: a text in which dollars alone open formulas is written as its segments are,
one by one, and to write it so again changes nothing. -/
theorem canonicalize_segments (s : Text) (h : DollarsOnly s) :
    canonicalize s = (split s).flatMap canonicalRaw ∧ canonicalize (canonicalize s) = canonicalize s := by
  have hmap := canonicalize_eq_mapMath h
  constructor
  · rw [hmap, Segment.mapMath_eq, joinRaw, List.flatMap_map]
    exact congrArg (fun g => (split s).flatMap g) (funext fun g => (canonicalRaw_eq g).symm)
  · have hsplit : split (mapMath canonicalBody s) = (split s).map (mapBody canonicalBody) :=
      Segment.split_mapMath fun k b hb => isBody_canonicalBody (Segment.wellFormed_of_mem_split s _ hb)
    have htwice : ∀ g, mapBody canonicalBody (mapBody canonicalBody g) = mapBody canonicalBody g := by
      intro g
      cases g with
      | prose t => rfl
      | math k b => exact congrArg (math k) (canonicalBody_canonicalBody k b)
    rw [canonicalize_eq_mapMath h.canonicalize, hmap, Segment.mapMath_eq, hsplit, List.map_map, Segment.mapMath_eq]
    exact congrArg (fun g => joinRaw ((split s).map g)) (funext htwice)

/-- Escapes of every kind, dollars that open nothing, a formula that keeps the space it escapes, one of white
space alone, and a backslash at the end. -/
theorem canonicalize_segments_unmatched :
    let s : Text := "é\\\\$ a\\ $, \\$5 $ $ \\x$$b $$ $c\n\n$\\".toList
    DollarsOnly s ∧ canonicalize s = (split s).flatMap canonicalRaw ∧ canonicalize (canonicalize s) = canonicalize s ∧
      canonicalize s = "é\\\\$a\\ $, \\$5 $ $ \\x$$b $$ $c\n\n$\\".toList := by
  have h : DollarsOnly "é\\\\$ a\\ $, \\$5 $ $ \\x$$b $$ $c\n\n$\\".toList := by decide +kernel
  obtain ⟨hsegments, hagain⟩ := canonicalize_segments _ h
  exact ⟨h, hsegments, hagain, by decide +kernel⟩

end Coursebook.Math
