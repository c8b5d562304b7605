/-
What is read of a text whose formulas were put back into changed prose. That
prose, with placeholders in it, is `Undisturbed` if no dollar of it opens a
formula once the formulas are back and no backslash of it escapes one. What is
read then is the prose with the formulas in their places
(`Reads.split_restore`), and only then (`Reads.undisturbed_of_maskFrom`). So
all formulas are found in their places if and only if the prose is also
`Complete` (`Reads.places_iff`).

Dollars that cannot pair up (`LoneDollar`, `DollarsApart`) are told by what a
reading of the prose notes down, because rewriting keeps that.
-/
import Coursebook.Proofs.Command.Reading
import Coursebook.Proofs.Segment.Map
import Mathlib.Data.List.Perm.Subperm

namespace Coursebook.Command

open Segment (maskOpen maskClose placeholder maskFrom split isMath Masked)
open Text (endsEscaped OccursUnescaped)

/-! ## What stands in front -/

/-- What stands in front of a place, as far as it decides about what follows. -/
def Place.front (p : Place) : Text := if p.escaped then ['\\'] else []

theorem Place.front_eq_nil {p : Place} (h : p.escaped = false) : p.front = [] := by simp [front, h]

/-- A character is escaped, or it is the backslash of an escape, or it stands for itself. -/
theorem Place.front_append_cons (p : Place) (c : Char) (s : Text) :
    p.escaped = true ∧ p.front ++ c :: s = '\\' :: c :: ((p.next c).front ++ s) ∨
    p.escaped = false ∧ c = '\\' ∧ p.front ++ c :: s = (p.next c).front ++ s ∨
    p.escaped = false ∧ c ≠ '\\' ∧ p.front ++ c :: s = c :: ((p.next c).front ++ s) := by
  cases hp : p.escaped with
  | true =>
    rw [front_eq_nil (p := p.next c) (by simp [hp])]
    exact .inl ⟨rfl, by simp [front, hp]⟩
  | false =>
    rw [front_eq_nil hp]
    by_cases hc : c = '\\'
    · exact .inr (.inl ⟨rfl, hc, by simp [hc, front, hp]⟩)
    · rw [front_eq_nil (p := p.next c) (by simp [hc])]
      exact .inr (.inr ⟨rfl, hc, rfl⟩)

/-- What a reader leaves behind at a character escapes nothing. -/
theorem Place.exists_front_cons (p : Place) (c : Char) (s : Text) :
    ∃ a, endsEscaped a = false ∧ (∀ d ∈ a, d = '\\' ∨ d = c) ∧ p.front ++ c :: s = a ++ ((p.next c).front ++ s) := by
  rcases p.front_append_cons c s with ⟨-, heq⟩ | ⟨-, -, heq⟩ | ⟨-, hne, heq⟩
  · exact ⟨['\\', c], rfl, by simp, heq⟩
  · exact ⟨[], rfl, by simp, heq⟩
  · exact ⟨[c], Text.endsEscaped_cons hne [], by simp, heq⟩

theorem Place.endsEscaped_placeholder (p : Place) (n : Nat) : endsEscaped (p.front ++ placeholder n) = false := by
  refine Text.endsEscaped_eq_false ?_
  rw [placeholder, ← List.append_assoc, List.getLast?_concat]
  decide

/-! ## Dollars -/

/-- A dollar with no dollar behind it opens no formula. -/
theorem mathSpan?_dollar_eq_none {s : Text} (h : ¬OccursUnescaped ['$'] s) : Segment.mathSpan? ('$' :: s) = none := by
  cases hspan : Segment.mathSpan? ('$' :: s) with
  | none => rfl
  | some p =>
    obtain ⟨k, b, r⟩ := p
    obtain ⟨heq, hbody⟩ := Segment.mathSpan?_eq_some_iff.1 hspan
    cases k with
    | inline =>
      rw [Segment.raw_inline_append] at heq
      exact absurd ⟨b, r, by rw [(List.cons.inj heq).2]; simp, hbody.2.1.unescaped⟩ h
    | display =>
      rw [Segment.raw_display_append] at heq
      exact absurd ⟨[], b ++ '$' :: '$' :: r, (List.cons.inj heq).2, rfl⟩ h

/-- A dollar with a blank line behind it, in front of the next dollar, opens no formula. -/
theorem mathSpan?_dollar_blankLine {u : Text} (h : ¬OccursUnescaped ['$'] u) (s : Text) :
    Segment.mathSpan? ('$' :: (u ++ '\n' :: '\n' :: s)) = none := by
  cases hspan : Segment.mathSpan? ('$' :: (u ++ '\n' :: '\n' :: s)) with
  | none => rfl
  | some p =>
    obtain ⟨k, b, r⟩ := p
    obtain ⟨heq, hbody⟩ := Segment.mathSpan?_eq_some_iff.1 hspan
    cases k with
    | inline =>
      rw [Segment.raw_inline_append] at heq
      rcases List.append_eq_append_iff.1 (List.cons.inj heq).2 with ⟨w, rfl, hw⟩ | ⟨w, rfl, hw⟩
      · -- The blank line is part of the body.
        match w with
        | [] | [_] => simp at hw
        | c :: d :: w =>
          simp only [List.cons_append, List.cons.injEq] at hw
          obtain ⟨rfl, rfl, -⟩ := hw
          exact absurd ⟨u, w, by simp⟩ hbody.2.2
      · cases w with
        | nil => simp at hw
        | cons c w =>
          obtain ⟨rfl, -⟩ := List.cons.inj hw
          exact absurd ⟨b, w, by simp, hbody.2.1.unescaped⟩ h
    | display =>
      rw [Segment.raw_display_append] at heq
      cases u with
      | nil => simp at heq
      | cons c u =>
        obtain ⟨rfl, -⟩ := List.cons.inj (List.cons.inj heq).2
        exact absurd ⟨[], u, rfl, rfl⟩ h

/-- Neither an unescaped dollar nor a placeholder. -/
def Bare (t : Text) : Prop := maskOpen ∉ t ∧ ¬OccursUnescaped ['$'] t

/-- What stands behind each unescaped dollar. -/
def BehindDollars (P : Text → Prop) (t : Text) : Prop := ∀ a b, t = a ++ '$' :: b → endsEscaped a = false → P b

/-- An unescaped dollar of the prose has neither another one behind it nor a formula. -/
def LoneDollar : Text → Prop := BehindDollars Bare

/-- An unescaped dollar of the prose has no other one behind it and no formula, or a blank line stands
between. -/
def DollarsApart : Text → Prop := BehindDollars fun b => Bare b ∨ ∃ u v, b = u ++ '\n' :: '\n' :: v ∧ Bare u

theorem LoneDollar.dollarsApart {t : Text} (h : LoneDollar t) : DollarsApart t := fun a b ht ha => .inl (h a b ht ha)

theorem BehindDollars.of_append {P : Text → Prop} {a t : Text} (h : BehindDollars P (a ++ t)) (ha : endsEscaped a = false) :
    BehindDollars P t := by
  intro a' b heq ha'
  refine h (a ++ a') b (by rw [heq, List.append_assoc]) ?_
  rwa [Text.endsEscaped_append ha]

/-- An unescaped dollar or a formula. -/
def Mark.isOpen : Mark → Bool
  | dollar escaped => !escaped
  | formula _ _ => true
  | _ => false

theorem Place.forall_not_isOpen_marks_iff (p : Place) (c : Char) :
    (∀ m ∈ p.marks c, m.isOpen = false) ↔ ¬(c = '$' ∧ p.escaped = false) := by
  constructor
  · rintro h ⟨rfl, hp⟩
    simpa [Mark.isOpen, hp] using h (.dollar p.escaped) (mem_marks_iff.2 (.inl ⟨rfl, rfl⟩))
  · intro h m hm
    rcases mem_marks_iff.1 hm with ⟨rfl, hc⟩ | ⟨rfl, -⟩ | ⟨rfl, -⟩ | ⟨rfl, -⟩ | ⟨rfl, -⟩
    · simpa [Mark.isOpen, hc] using h
    all_goals rfl

theorem Place.not_mem_front (p : Place) {c : Char} (hc : c ≠ '\\') : c ∉ p.front := by
  unfold front
  split <;> simp [hc]

theorem bare_front_append_iff (p : Place) (t : Text) :
    Bare (p.front ++ t) ↔ maskOpen ∉ t ∧ ¬OccursUnescaped ['$'] (p.front ++ t) := by
  simp [Bare, p.not_mem_front (c := maskOpen) (by decide)]

/-- **What a reading notes down of a text**: its unescaped dollars, and its placeholders. -/
theorem Reads.forall_not_isOpen_iff {p q : Place} {t : Text} {ms : List Mark} (h : Reads p t ms q) :
    (∀ m ∈ ms, m.isOpen = false) ↔ Bare (p.front ++ t) := by
  rw [bare_front_append_iff]
  induction h with
  | nil p =>
    have : ¬OccursUnescaped ['$'] p.front := by
      unfold Place.front
      split
      · exact Text.not_occursUnescaped_backslash (by decide)
      · exact Text.not_occursUnescaped_nil
    simpa using this
  | @char p q c s ms hopen hclose _ ih =>
    have hc : maskOpen ∉ c :: s ↔ maskOpen ∉ s := by simp [hopen.symm]
    have hocc : OccursUnescaped ['$'] (p.front ++ c :: s) ↔
        c = '$' ∧ p.escaped = false ∨ OccursUnescaped ['$'] ((p.next c).front ++ s) := by
      rcases p.front_append_cons c s with ⟨hp, heq⟩ | ⟨hp, rfl, heq⟩ | ⟨hp, hne, heq⟩
      · rw [heq, Text.occursUnescaped_escape (by decide)]
        simp [hp]
      · rw [heq]
        simp
      · rw [heq, Text.occursUnescaped_cons hne]
        simp [hp]
    rw [hc, hocc, List.forall_mem_append, p.forall_not_isOpen_marks_iff, ih, not_or]
    exact and_left_comm
  | formula p n _ ih =>
    have hopen : maskOpen ∈ placeholder n := List.mem_cons_self
    simp [Mark.isOpen, hopen]

/-- Behind a dollar that is not escaped there is neither another one nor a formula. -/
def Lone (ms : List Mark) : Prop := ms.Pairwise fun m m' => m = .dollar false → m'.isOpen = false

/-- The marks that are not solid have no part in it. -/
theorem Lone.of_solid {ms : List Mark} (h : Lone (solid ms)) : Lone ms := by
  refine (List.pairwise_filter.1 h).imp fun {m m'} hmm' hm => ?_
  subst hm
  cases m' with
  | option | spacing | hollow | doubled => rfl
  | dollar e => exact hmm' rfl rfl rfl
  | formula n e => exact hmm' rfl rfl rfl

/-- A character behind a piece without it is one of the rest. -/
theorem eq_append_of_not_mem {x s a b : Text} {c : Char} (hx : c ∉ x) (h : x ++ s = a ++ c :: b) :
    ∃ w, a = x ++ w ∧ s = w ++ c :: b := by
  rcases List.append_eq_append_iff.1 h with ⟨w, rfl, hw⟩ | ⟨w, rfl, hw⟩
  · exact ⟨w, rfl, hw⟩
  · cases w with
    | nil => exact ⟨[], by simp, hw.symm⟩
    | cons d w =>
      obtain ⟨rfl, -⟩ := List.cons.inj hw
      simp at hx

namespace BehindDollars

variable {P : Text → Prop} {s : Text}

theorem escape_iff {c : Char} : BehindDollars P ('\\' :: c :: s) ↔ BehindDollars P s := by
  refine ⟨fun h => .of_append (a := ['\\', c]) h rfl, fun h a b heq ha => ?_⟩
  match a with
  | [] => simp at heq
  | [d] =>
    obtain ⟨rfl, -⟩ := List.cons.inj heq
    simp at ha
  | d :: e :: a =>
    simp only [List.cons_append, List.cons.injEq] at heq
    obtain ⟨rfl, rfl, rfl⟩ := heq
    exact h a b rfl (by simpa using ha)

theorem cons_iff {c : Char} (hc : c ≠ '\\') : BehindDollars P (c :: s) ↔ (c = '$' → P s) ∧ BehindDollars P s := by
  refine ⟨fun h => ⟨fun hd => ?_, .of_append (a := [c]) h (Text.endsEscaped_cons hc [])⟩, ?_⟩
  · exact h [] s (by rw [hd]; rfl) rfl
  rintro ⟨hhead, h⟩ a b heq ha
  cases a with
  | nil =>
    obtain ⟨hd, rfl⟩ := List.cons.inj heq
    exact hhead hd
  | cons d a =>
    obtain ⟨rfl, rfl⟩ := List.cons.inj heq
    exact h a b rfl (by rwa [Text.endsEscaped_cons hc] at ha)

theorem append_iff {x : Text} (hx : '$' ∉ x) (he : endsEscaped x = false) :
    BehindDollars P (x ++ s) ↔ BehindDollars P s := by
  refine ⟨fun h => h.of_append he, fun h a b heq ha => ?_⟩
  obtain ⟨w, rfl, rfl⟩ := eq_append_of_not_mem hx heq
  exact h w b rfl (by rwa [Text.endsEscaped_append he] at ha)

/-- What stands behind the dollars of a text, told where a placeholder is. -/
theorem formula_iff (p : Place) (n : Nat) :
    BehindDollars P (p.front ++ (placeholder n ++ s)) ↔ BehindDollars P s := by
  have hdollar : '$' ∉ p.front ++ placeholder n := by
    rw [List.mem_append, not_or]
    exact ⟨p.not_mem_front (by decide), IsCut.not_mem (by decide) n⟩
  rw [← List.append_assoc, append_iff hdollar (p.endsEscaped_placeholder n)]

theorem front (p : Place) : BehindDollars P (p.front ++ []) := by
  intro a b heq _
  rw [List.append_nil] at heq
  exact absurd (heq ▸ by simp) (p.not_mem_front (c := '$') (by decide))

/-- What stands behind the dollars of a text, told at a character. -/
theorem char_iff (p : Place) (c : Char) :
    BehindDollars P (p.front ++ c :: s) ↔
      (c = '$' ∧ p.escaped = false → P s) ∧ BehindDollars P ((p.next c).front ++ s) := by
  rcases p.front_append_cons c s with ⟨hp, heq⟩ | ⟨hp, rfl, heq⟩ | ⟨hp, hne, heq⟩
  · rw [heq, escape_iff, Place.front_eq_nil (p := p.next c) (by simp [hp])]
    simp [hp]
  · rw [heq]
    simp
  · rw [heq, cons_iff hne, Place.front_eq_nil (p := p.next c) (by simp [hne])]
    simp [hp]

end BehindDollars

theorem lone_marks_append_iff {p : Place} {c : Char} {ms : List Mark} :
    Lone (p.marks c ++ ms) ↔ (c = '$' ∧ p.escaped = false → ∀ m ∈ ms, m.isOpen = false) ∧ Lone ms := by
  rw [Lone, List.pairwise_append, and_iff_right (p.pairwise_marks c _), and_comm]
  refine and_congr_left' ⟨?_, fun h m hm m' hm' hd => ?_⟩
  · rintro h ⟨rfl, hp⟩ m hm
    exact h (.dollar p.escaped) (Place.mem_marks_iff.2 (.inl ⟨rfl, rfl⟩)) m hm (by rw [hp])
  · subst hd
    rcases Place.mem_marks_iff.1 hm with ⟨hp, hc⟩ | ⟨hp, -⟩ | ⟨hp, -⟩ | ⟨hp, -⟩ | ⟨hp, -⟩
    · exact h ⟨hc, (Mark.dollar.inj hp).symm⟩ m' hm'
    all_goals exact Mark.noConfusion hp

/-- **Dollars stand alone** in a text if they do among its marks. -/
theorem Reads.lone_iff {p q : Place} {t : Text} {ms : List Mark} (h : Reads p t ms q) :
    Lone ms ↔ LoneDollar (p.front ++ t) := by
  unfold LoneDollar
  induction h with
  | nil p => exact iff_of_true .nil (.front p)
  | @char p q c s ms hopen hclose h ih =>
    rw [lone_marks_append_iff, h.forall_not_isOpen_iff, ih, BehindDollars.char_iff]
    refine and_congr_left' (forall_congr' fun hc => ?_)
    rw [Place.front_eq_nil (p := p.next c) (by simp [hc.1]), List.nil_append]
  | @formula p q n s ms h ih =>
    rw [BehindDollars.formula_iff, Lone, List.pairwise_cons]
    rw [Place.front_eq_nil rfl, List.nil_append] at ih
    exact ⟨fun h => ih.1 h.2, fun h => ⟨fun _ _ hm => Mark.noConfusion hm, ih.2 h⟩⟩

/-! ## From a reading to the formulas -/

theorem filter_isMath_consProse (c : Char) (ss : List Segment) :
    (Segment.consProse c ss).filter isMath = ss.filter isMath := by
  unfold Segment.consProse
  split <;> simp [isMath]

/-- Behind its first character a placeholder has nothing that another one starts with. -/
theorem maskOpen_not_mem_digits (n : Nat) : maskOpen ∉ Text.ofNat n ++ [maskClose] := by
  rw [List.mem_append, not_or]
  exact ⟨fun hmem => absurd (Text.isAsciiDigit_of_mem_ofNat hmem) (by decide), by decide⟩

/-- No backslash escapes a placeholder. -/
def NoneEscaped (t : Text) : Prop := ∀ a n b, t = a ++ (placeholder n ++ b) → endsEscaped a = false

namespace NoneEscaped

variable {x s : Text}

theorem of_append (h : NoneEscaped (x ++ s)) (hx : endsEscaped x = false) : NoneEscaped s := by
  intro a n b heq
  rw [← Text.endsEscaped_append hx]
  exact h (x ++ a) n b (by rw [heq, List.append_assoc])

theorem append_iff (hopen : maskOpen ∉ x) (hx : endsEscaped x = false) : NoneEscaped (x ++ s) ↔ NoneEscaped s := by
  refine ⟨fun h => h.of_append hx, fun h a n b heq => ?_⟩
  rw [Segment.placeholder_append] at heq
  obtain ⟨w, rfl, rfl⟩ := eq_append_of_not_mem hopen heq
  rw [Text.endsEscaped_append hx]
  exact h w n b (by rw [Segment.placeholder_append])

theorem placeholder_iff (n : Nat) : NoneEscaped (placeholder n ++ s) ↔ NoneEscaped s := by
  refine ⟨fun h => h.of_append (Place.free.endsEscaped_placeholder n), fun h a k b heq => ?_⟩
  have hrest : NoneEscaped (Text.ofNat n ++ [maskClose] ++ s) := by
    refine (append_iff (maskOpen_not_mem_digits n) (Text.endsEscaped_eq_false ?_)).2 h
    rw [List.getLast?_concat]
    decide
  rw [Segment.placeholder_append] at heq
  cases a with
  | nil => rfl
  | cons d a =>
    obtain ⟨hd, htail⟩ := List.cons.inj heq
    rw [Text.endsEscaped_cons (by rw [← hd]; decide)]
    exact hrest a k b (by rw [List.append_assoc]; exact htail)

end NoneEscaped

/-- An escaped placeholder is noted down as such. -/
theorem Reads.forall_not_escaped_iff {p q : Place} {t : Text} {ms : List Mark} (h : Reads p t ms q) :
    (∀ n, Mark.formula n true ∉ ms) ↔ NoneEscaped (p.front ++ t) := by
  induction h with
  | nil p =>
    refine iff_of_true (fun n hn => by cases hn) fun a n b heq => ?_
    rw [List.append_nil, Segment.placeholder_append] at heq
    exact absurd (heq ▸ by simp) (p.not_mem_front (c := maskOpen) (by decide))
  | @char p q c s ms hopen hclose h ih =>
    obtain ⟨a, ha, hmem, heq⟩ := p.exists_front_cons c s
    have hopen : maskOpen ∉ a := fun h => (hmem _ h).elim (by decide) fun h => hopen h.symm
    rw [heq, NoneEscaped.append_iff hopen ha, ← ih]
    simp [p.formula_not_mem_marks]
  | @formula p q n s ms h ih =>
    rw [Place.front_eq_nil rfl, List.nil_append] at ih
    cases hp : p.escaped with
    | true =>
      refine iff_of_false (fun h => h n (by simp)) fun h => ?_
      have := h p.front n s rfl
      simp [Place.front, hp] at this
    | false =>
      rw [Place.front_eq_nil hp, List.nil_append, NoneEscaped.placeholder_iff, ← ih]
      simp

/-- A dollar in front of a text opens no formula once the formulas are back. -/
def OpensNone (m : Masked) (b : Text) : Prop := Segment.mathSpan? ('$' :: m.restore b) = none

theorem DollarsApart.opensNone {t : Text} (h : DollarsApart t) (m : Masked) : BehindDollars (OpensNone m) t := by
  intro a b heq ha
  rcases h a b heq ha with hbare | ⟨u, v, rfl, hbare⟩
  · have hb : m.restore b = b := by simpa using m.restore_append hbare.1 []
    rw [OpensNone, hb]
    exact mathSpan?_dollar_eq_none hbare.2
  · rw [OpensNone, m.restore_append hbare.1, m.restore_cons (by decide), m.restore_cons (by decide)]
    exact mathSpan?_dollar_blankLine hbare.2 _

/-- The placeholders of a text are those that are noted down of it. -/
theorem Reads.placeholder_infix_iff {p q : Place} {t : Text} {ms : List Mark} (h : Reads p t ms q) (n : Nat) :
    placeholder n <:+: t ↔ n ∈ indices ms := by
  -- A placeholder behind a text without its first character is one of the rest.
  have hskip {x s : Text} (hx : maskOpen ∉ x) : placeholder n <:+: x ++ s ↔ placeholder n <:+: s := by
    refine ⟨fun h => ?_, fun h => h.trans (List.suffix_append x s).isInfix⟩
    obtain ⟨a, b, heq⟩ := h
    rw [List.append_assoc, Segment.placeholder_append] at heq
    obtain ⟨w, -, rfl⟩ := eq_append_of_not_mem hx heq.symm
    exact ⟨w, b, by rw [List.append_assoc, Segment.placeholder_append]⟩
  induction h with
  | nil p => exact iff_of_false (fun h => by simpa [placeholder] using List.infix_nil.1 h) (by simp [indices])
  | @char p q c s ms hopen hclose h ih =>
    rw [indices_append, p.indices_marks, List.nil_append]
    exact (hskip (x := [c]) (by simpa using hopen.symm)).trans ih
  | @formula p q k s ms h ih =>
    have hms : indices (.formula k p.escaped :: ms) = k :: indices ms := rfl
    rw [hms, List.mem_cons, Segment.placeholder_append, List.infix_cons_iff, ← Segment.placeholder_append]
    refine or_congr ⟨fun h => ?_, fun hn => ?_⟩ ?_
    · obtain ⟨r, hr⟩ := h
      exact (Segment.placeholder_append_inj hr).1
    · rw [hn]
      exact List.prefix_append _ _
    · have hrest := hskip (s := s) (maskOpen_not_mem_digits k)
      rw [List.append_assoc] at hrest
      exact hrest.trans ih

/-- No dollar of the prose opens a formula once the formulas are back, and no backslash of it escapes one. -/
structure Undisturbed (m : Masked) (t : Text) : Prop where
  dollars : BehindDollars (OpensNone m) t
  formulas : NoneEscaped t

/-- A character that opens no formula is prose. -/
theorem Place.split_char (p : Place) {c : Char} {s : Text}
    (hspan : c = '$' ∧ p.escaped = false → Segment.mathSpan? ('$' :: s) = none) :
    (split (p.front ++ c :: s)).filter isMath = (split ((p.next c).front ++ s)).filter isMath ∧
      ∀ k u, maskFrom k (split (p.front ++ c :: s)) = p.front ++ c :: u ↔
        maskFrom k (split ((p.next c).front ++ s)) = (p.next c).front ++ u := by
  cases hp : p.escaped with
  | true =>
    have hfront : p.front = ['\\'] := by simp [front, hp]
    rw [hfront, front_eq_nil (p := p.next c) (by simp [hp])]
    simp only [List.singleton_append, List.nil_append]
    rw [Segment.split_escape, filter_isMath_consProse, filter_isMath_consProse]
    exact ⟨rfl, fun k u => by rw [Segment.maskFrom_consProse, Segment.maskFrom_consProse]; simp⟩
  | false =>
    rw [front_eq_nil hp, List.nil_append]
    by_cases hc : c = '\\'
    · have hfront : (p.next c).front = ['\\'] := by simp [front, hp, hc]
      rw [hfront, hc]
      exact ⟨rfl, fun k u => Iff.rfl⟩
    · have hnone : Segment.mathSpan? (c :: s) = none := by
        by_cases hd : c = '$'
        · exact hd ▸ hspan ⟨hd, hp⟩
        · exact Segment.mathSpan?_cons_of_ne hd s
      rw [front_eq_nil (p := p.next c) (by simp [hc]), List.nil_append, Segment.split_prose hnone hc, filter_isMath_consProse]
      exact ⟨rfl, fun k u => by rw [Segment.maskFrom_consProse]; simp⟩

section

variable {m : Masked} {formulas : List Segment} (hspans : m.spans = formulas.map Segment.raw)
  (hformulas : ∀ g ∈ formulas, ∃ k b, g = .math k b ∧ Segment.IsBody k b)
  {p q : Place} {t : Text} {ms : List Mark} (h : Reads p t ms q)

include hspans hformulas

/-- What an index stands for. -/
theorem exists_body_of_lt {n : Nat} (hn : n < formulas.length) :
    ∃ kind b, formulas[n]? = some (.math kind b) ∧ Segment.IsBody kind b ∧ m.spans[n]? = some (Segment.math kind b).raw := by
  obtain ⟨kind, b, hg, hbody⟩ := hformulas formulas[n] (List.getElem_mem hn)
  have hformula : formulas[n]? = some (.math kind b) := by rw [List.getElem?_eq_getElem hn, hg]
  exact ⟨kind, b, hformula, hbody, by rw [hspans, List.getElem?_map, hformula, Option.map_some]⟩

include h

/-- **What is read of a restored text** is the template with the formulas in their places, if it is undisturbed. -/
theorem Reads.split_restore (hindices : ∀ n ∈ indices ms, n < formulas.length) (ht : Undisturbed m (p.front ++ t)) :
    (split (p.front ++ m.restore t)).filter isMath = (indices ms).filterMap (formulas[·]?) ∧
      ∀ k, indices ms = List.range' k (indices ms).length → maskFrom k (split (p.front ++ m.restore t)) = p.front ++ t := by
  obtain ⟨hdollars, hfree⟩ := ht
  rw [← h.forall_not_escaped_iff] at hfree
  induction h with
  | nil p =>
    rw [m.restore_nil, List.append_nil]
    unfold Place.front
    split
    · rw [Segment.split_backslash]
      exact ⟨rfl, fun k _ => rfl⟩
    · rw [split]
      exact ⟨rfl, fun k _ => rfl⟩
  | @char p q c s ms hopen hclose h ih =>
    have hfree' : ∀ n, Mark.formula n true ∉ ms := fun n hn => hfree n (List.mem_append_right _ hn)
    obtain ⟨hspan, hdollars⟩ := (BehindDollars.char_iff p c).1 hdollars
    obtain ⟨hmath, hmask⟩ := ih (by simpa using hindices) hdollars hfree'
    obtain ⟨hmath', hmask'⟩ := p.split_char hspan
    rw [m.restore_cons hopen, indices_append, p.indices_marks, List.nil_append]
    exact ⟨hmath'.trans hmath, fun k hk => (hmask' k s).2 (hmask k hk)⟩
  | @formula p q n s ms h ih =>
    have hp : p.escaped = false := by
      rw [← Bool.not_eq_true]
      exact fun hp => hfree n (by simp [hp])
    obtain ⟨kind, b, hformula, hbody, hspan⟩ :=
      exists_body_of_lt hspans hformulas (hindices n (by simp [indices, Mark.index?]))
    have hms : indices (.formula n p.escaped :: ms) = n :: indices ms := rfl
    rw [hms] at hindices ⊢
    rw [BehindDollars.formula_iff] at hdollars
    simp only [Place.front_eq_nil (p := .free) rfl, List.nil_append] at ih
    obtain ⟨hmath, hmask⟩ := ih (fun i hi => hindices i (List.mem_cons_of_mem n hi)) hdollars
      fun i hi => hfree i (List.mem_cons_of_mem _ hi)
    rw [Place.front_eq_nil hp, List.nil_append, m.restore_placeholder hspan, Segment.split_math (hbody.mathSpan? _)]
    refine ⟨?_, fun k hk => ?_⟩
    · rw [List.filter_cons_of_pos rfl, hmath, List.filterMap_cons, hformula]
    · rw [List.length_cons, List.range'_succ, List.cons.injEq] at hk
      obtain ⟨rfl, hrest⟩ := hk
      rw [List.nil_append, maskFrom, hmask (n + 1) hrest]

/-- **Formulas in their places** leave the prose undisturbed. -/
theorem Reads.undisturbed_of_maskFrom (hindices : ∀ n ∈ indices ms, n < formulas.length) {k : Nat}
    (ht : maskFrom k (split (p.front ++ m.restore t)) = p.front ++ t) : Undisturbed m (p.front ++ t) := by
  suffices hboth : BehindDollars (OpensNone m) (p.front ++ t) ∧ ∀ n, Mark.formula n true ∉ ms from
    ⟨hboth.1, h.forall_not_escaped_iff.1 hboth.2⟩
  induction h generalizing k with
  | nil p => exact ⟨.front p, fun n hn => by cases hn⟩
  | @char p q c s ms hopen hclose h ih =>
    rw [m.restore_cons hopen] at ht
    have hspan : c = '$' ∧ p.escaped = false → Segment.mathSpan? ('$' :: m.restore s) = none := by
      rintro ⟨rfl, hp⟩
      rw [Place.front_eq_nil hp, List.nil_append, List.nil_append] at ht
      cases hspan : Segment.mathSpan? ('$' :: m.restore s) with
      | none => rfl
      | some found =>
        -- A placeholder would stand where the dollar is.
        rw [Segment.split_math hspan, maskFrom, Segment.placeholder_append] at ht
        exact absurd (List.cons.inj ht).1 (by decide)
    obtain ⟨hdollars, hfree⟩ := ih (by simpa using hindices) (((p.split_char hspan).2 k s).1 ht)
    refine ⟨(BehindDollars.char_iff p c).2 ⟨hspan, hdollars⟩, fun n hn => ?_⟩
    exact (List.mem_append.1 hn).elim (p.formula_not_mem_marks c n true) (hfree n)
  | @formula p q n s ms h ih =>
    obtain ⟨kind, b, -, hbody, hspan⟩ :=
      exists_body_of_lt hspans hformulas (hindices n (by simp [indices, Mark.index?]))
    rw [m.restore_placeholder hspan] at ht
    cases hp : p.escaped with
    | true =>
      -- The first dollar of the formula would be escaped, and stand where the placeholder is.
      have hfront : p.front = ['\\'] := by simp [Place.front, hp]
      obtain ⟨r, hr⟩ : ∃ r, (Segment.math kind b).raw ++ m.restore s = '$' :: r := by
        cases kind
        · exact ⟨_, Segment.raw_inline_append b _⟩
        · exact ⟨_, Segment.raw_display_append b _⟩
      rw [hr, hfront, List.singleton_append, List.singleton_append, Segment.split_escape, Segment.maskFrom_consProse,
        Segment.maskFrom_consProse, Segment.placeholder_append] at ht
      exact absurd (List.cons.inj (List.cons.inj ht).2).1 (by decide)
    | false =>
      rw [Place.front_eq_nil hp, List.nil_append, List.nil_append, Segment.split_math (hbody.mathSpan? _), maskFrom] at ht
      simp only [Place.front_eq_nil (p := .free) rfl, List.nil_append] at ih
      obtain ⟨hdollars, hfree⟩ :=
        ih (fun i hi => hindices i (List.mem_cons_of_mem n hi)) (Segment.placeholder_append_inj ht).2
      refine ⟨(BehindDollars.formula_iff p n).2 hdollars, fun i hi => ?_⟩
      rcases List.mem_cons.1 hi with heq | hi
      · cases heq
      · exact hfree i hi

end

/-! ## All formulas -/

/-- Every index names its formula. -/
theorem filterMap_range' {α : Type} (l : List α) : (List.range' 0 l.length).filterMap (l[·]?) = l := by
  rw [← List.range_eq_range']
  induction l with
  | nil => rfl
  | cons a l ih =>
    rw [List.length_cons, List.range_succ_eq_map, List.filterMap_cons, List.filterMap_map]
    simpa [Function.comp_def] using ih

/-- A sublist of the first numbers that misses none is all of them. -/
theorem eq_range'_of_sublist {is : List Nat} {n : Nat} (h : is.Sublist (List.range' 0 n)) (hall : ∀ i < n, i ∈ is) :
    is = List.range' 0 n := by
  refine h.eq_of_length_le ?_
  have hsub : List.range' 0 n ⊆ is := fun i hi => hall i (by simpa using List.mem_range'_1.1 hi)
  exact (List.nodup_range' (s := 0) (n := n)).subperm hsub |>.length_le

/-- All placeholders of some formulas stand in a text. -/
def Complete (n : Nat) (t : Text) : Prop := ∀ i < n, placeholder i <:+: t

section

variable {m : Masked} {formulas : List Segment} (hspans : m.spans = formulas.map Segment.raw)
  (hformulas : ∀ g ∈ formulas, ∃ k b, g = .math k b ∧ Segment.IsBody k b)
  {q : Place} {t : Text} {ms : List Mark} (h : Reads .free t ms q)
  (hsub : (indices ms).Sublist (List.range' 0 formulas.length))

include h hsub

theorem Reads.complete_iff : Complete formulas.length t ↔ indices ms = List.range' 0 formulas.length := by
  simp only [Complete, h.placeholder_infix_iff]
  refine ⟨eq_range'_of_sublist hsub, fun heq n hn => ?_⟩
  rw [heq, List.mem_range'_1]
  omega

include hspans hformulas

/-- An undisturbed template keeps all formulas if it is complete, and only then. -/
theorem Reads.filter_split_restore_iff (ht : Undisturbed m t) :
    (split (m.restore t)).filter isMath = formulas ↔ Complete formulas.length t := by
  have hvalid : ∀ n ∈ indices ms, n < formulas.length := fun n hn => by simpa using List.mem_range'_1.1 (hsub.subset hn)
  obtain ⟨hmath, -⟩ := h.split_restore hspans hformulas hvalid (by rwa [Place.front_eq_nil rfl])
  rw [Place.front_eq_nil rfl, List.nil_append] at hmath
  rw [hmath, h.complete_iff hsub]
  refine ⟨fun heq => hsub.eq_of_length_le ?_, fun heq => by rw [heq, filterMap_range']⟩
  rw [List.length_range']
  exact heq ▸ List.length_filterMap_le (formulas[·]?) (indices ms)

/-- **All formulas are in their places** if the template is complete and undisturbed, and only then. -/
theorem Reads.places_iff :
    (split (m.restore t)).filter isMath = formulas ∧ maskFrom 0 (split (m.restore t)) = t ↔
      Complete formulas.length t ∧ Undisturbed m t := by
  have hvalid : ∀ n ∈ indices ms, n < formulas.length := fun n hn => by simpa using List.mem_range'_1.1 (hsub.subset hn)
  constructor
  · rintro ⟨hmath, hplaces⟩
    have ht : Undisturbed m t := by
      have := h.undisturbed_of_maskFrom hspans hformulas hvalid (k := 0)
        (by rwa [Place.front_eq_nil rfl, List.nil_append, List.nil_append])
      rwa [Place.front_eq_nil rfl] at this
    exact ⟨(h.filter_split_restore_iff hspans hformulas hsub ht).1 hmath, ht⟩
  · rintro ⟨hall, ht⟩
    refine ⟨(h.filter_split_restore_iff hspans hformulas hsub ht).2 hall, ?_⟩
    obtain ⟨-, hmask⟩ := h.split_restore hspans hformulas hvalid (by rwa [Place.front_eq_nil rfl])
    simp only [Place.front_eq_nil (p := .free) rfl, List.nil_append] at hmask
    exact hmask 0 (by rw [(h.complete_iff hsub).1 hall, List.length_range'])

end

/-! ## From a text to its reading -/

/-- What is noted down of the placeholders of a masked text: their indices in order, none escaped. -/
theorem exists_reads_maskFrom {s : Text} (hopen : maskOpen ∉ s) (hclose : maskClose ∉ s) {p : Place}
    (hp : p.escaped = false) (n : Nat) : ∃ ms q, Reads p (maskFrom n (split s)) ms q ∧
      indices ms = List.range' n ((split s).filter isMath).length ∧ ∀ i, Mark.formula i true ∉ ms := by
  have hchar : ∀ {p : Place} {c : Char} {s : Text} {ms : List Mark} {q : Place}, c ≠ maskOpen → c ≠ maskClose →
      Reads (p.next c) s ms q → (∀ i, Mark.formula i true ∉ ms) → Reads p (c :: s) (p.marks c ++ ms) q ∧
        ∀ i, Mark.formula i true ∉ p.marks c ++ ms := by
    intro p c s ms q hopen hclose h hms
    refine ⟨.char hopen hclose h, fun i hi => ?_⟩
    exact (List.mem_append.1 hi).elim (p.formula_not_mem_marks c i true) (hms i)
  fun_induction split s generalizing p n with
  | case1 => exact ⟨[], p, .nil p, rfl, by simp⟩
  | case2 c s k b r hspan ih =>
    have heq := Segment.eq_of_mathSpan? hspan
    rw [heq, List.mem_append, not_or] at hopen hclose
    obtain ⟨ms, q, hread, hindices, hms⟩ := ih hopen.2 hclose.2 (p := .free) rfl (n + 1)
    refine ⟨_, q, .formula p n hread, ?_, ?_⟩
    · rw [List.filter_cons_of_pos rfl, List.length_cons, List.range'_succ, ← hindices]
      rfl
    · simpa [hp] using hms
  | case3 =>
    have hmarks : p.seen ['\\'] = [] := rfl
    exact ⟨[], _, hmarks ▸ Reads.of_not_mem p hopen hclose, rfl, by simp⟩
  | case4 d s _ ih =>
    simp only [List.mem_cons, not_or] at hopen hclose
    have hnext : ((p.next '\\').next d).escaped = false := by simp [hp]
    obtain ⟨ms, q, hread, hindices, hms⟩ := ih hopen.2.2 hclose.2.2 hnext n
    obtain ⟨hread, hms⟩ := hchar (Ne.symm hopen.2.1) (Ne.symm hclose.2.1) hread hms
    obtain ⟨hread, hms⟩ := hchar (Ne.symm hopen.1) (Ne.symm hclose.1) hread hms
    rw [Segment.maskFrom_consProse, Segment.maskFrom_consProse, filter_isMath_consProse, filter_isMath_consProse]
    exact ⟨_, q, hread, by simpa using hindices, hms⟩
  | case5 c s _ hc ih =>
    simp only [List.mem_cons, not_or] at hopen hclose
    obtain ⟨ms, q, hread, hindices, hms⟩ := ih hopen.2 hclose.2 (p := p.next c) (by simp [hc]) n
    obtain ⟨hread, hms⟩ := hchar (Ne.symm hopen.1) (Ne.symm hclose.1) hread hms
    rw [Segment.maskFrom_consProse, filter_isMath_consProse]
    exact ⟨_, q, hread, by simpa using hindices, hms⟩

end Coursebook.Command
