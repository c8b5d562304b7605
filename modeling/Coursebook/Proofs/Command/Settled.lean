/-
Texts that the lowering of macros leaves as they are. A pass that finds
something takes a backslash away, but for the last one, which takes line
endings away; none puts any in. So what one pass did is not undone by
another, and a text is left as it is exactly if no pass finds anything in
it (`normalize_eq_self_iff`).

Lowering may leave a macro behind, since a pass does not look again at what
it made. Lowering again and again comes to an end
(`exists_settled_iterate`).
-/
import Coursebook.Proofs.Command.Formulas
import Mathlib.Algebra.Order.BigOperators.Group.List
import Mathlib.Algebra.GroupWithZero.Nat
import Mathlib.Algebra.Order.Group.Nat

namespace Coursebook.Command

open Segment (mask? maskFrom mathSpans split joinRaw Masked)

/-! ## Fewer backslashes -/

/-- Whether a text has fewer backslashes than another one, or no more of them and fewer line endings. -/
def Fewer (x y : Text) : Prop :=
  y.count '\\' < x.count '\\' ∨ y.count '\\' ≤ x.count '\\' ∧ y.count '\n' < x.count '\n'

namespace Fewer

variable {x y z x' y' : Text}

theorem ne (h : Fewer x y) : y ≠ x := by
  rintro rfl
  rcases h with h | ⟨-, h⟩ <;> exact Nat.lt_irrefl _ h

theorem trans (h : Fewer x y) (h' : Fewer y z) : Fewer x z := by
  unfold Fewer at *
  omega

instance : Trans Fewer Fewer Fewer := ⟨Fewer.trans⟩

theorem wellFounded : WellFounded fun y x => Fewer x y := by
  have hlex : ∀ x y, Fewer x y →
      Prod.Lex (· < ·) (· < ·) (y.count '\\', y.count '\n') (x.count '\\', x.count '\n') := by
    intro x y h
    rw [Prod.lex_def]
    unfold Fewer at h
    omega
  exact Subrelation.wf (fun {y x} h => hlex x y h) (InvImage.wf _ (WellFounded.prod_lex Nat.lt_wfRel.wf Nat.lt_wfRel.wf))

theorem append (h : Fewer x y) (h' : y' = x' ∨ Fewer x' y') : Fewer (x ++ x') (y ++ y') := by
  simp only [Fewer, List.count_append] at *
  rcases h' with rfl | h' <;> omega

theorem append_left (h : Fewer x y) (a : Text) : Fewer (a ++ x) (a ++ y) := by
  simp only [Fewer, List.count_append] at *
  omega

end Fewer

/-- Whether any pass finds something in a text. -/
def HasMacro (t : Text) : Prop :=
  ListBlock.HasList t ∨ Environment.IsClosedIn solutionName t ∨ HasHeading t ∨ HasEmphasis t ∨ HasLineBreak t ∨
    HasBlankLines t

/-- **Prose is lowered** if there is anything to lower. -/
theorem outcome_lowerProse (t : Text) : Outcome Fewer (HasMacro t) t (lowerProse t) := by
  have hshrinks : ∀ {lists x y}, Shrinks lists x y → Fewer x y := fun h => .inl h.count_lt
  have hlists := (ListBlock.outcome_renderAll t).mono hshrinks
  have hsolutions := hlists.trans _ ((outcome_lowerSolutions _).mono hshrinks)
  have hheadings := hsolutions.trans _ ((outcome_lowerHeadings _).mono hshrinks)
  have hemphasis := hheadings.trans _ ((outcome_lowerEmphasis _).mono hshrinks)
  have hbreaks := hemphasis.trans _ ((outcome_lowerLineBreaks _).mono .inl)
  have hblank := hbreaks.trans _ ((outcome_closeBlankLines _).mono fun h =>
    .inr ⟨((respaces_closeBlankLines _).lowers false).count_le, h⟩)
  exact hblank.congr (by simp only [HasMacro, or_assoc])

/-! ## Restored texts -/

/-- **The characters of a restored text** are those of the prose and those of the formulas that it names. -/
theorem count_restore {m : Masked} {c : Char} (hc : IsCut c) {p q : Place} {t : Text} {ms : List Mark}
    (h : Reads p t ms q) (hindices : ∀ n ∈ indices ms, n < m.spans.length) :
    (m.restore t).count c = t.count c + ((indices ms).map fun n => (m.spans[n]?.getD []).count c).sum := by
  induction h with
  | nil => simp [indices]
  | @char p q d s ms hopen hclose _ ih =>
    rw [indices_append, p.indices_marks, List.nil_append] at hindices ⊢
    rw [m.restore_cons hopen, List.count_cons, List.count_cons, ih hindices]
    omega
  | @formula p q n s ms _ ih =>
    have hms : indices (.formula n p.escaped :: ms) = n :: indices ms := rfl
    rw [hms, List.forall_mem_cons] at hindices
    have hspan : m.spans[n]? = some m.spans[n] := List.getElem?_eq_getElem hindices.1
    have hnone : (Segment.placeholder n).count c = 0 := List.count_eq_zero.2 (hc.not_mem n)
    rw [m.restore_placeholder hspan, List.count_append, List.count_append, ih hindices.2, hms, List.map_cons,
      List.sum_cons, hspan, hnone, Option.getD_some]
    omega

theorem Fewer.restore {m : Masked} {p q q' : Place} {t t' : Text} {ms ms' : List Mark} (h : Reads p t ms q)
    (h' : Reads p t' ms' q') (hsub : (indices ms').Sublist (indices ms))
    (hindices : ∀ n ∈ indices ms, n < m.spans.length) (hfewer : Fewer t t') : Fewer (m.restore t) (m.restore t') := by
  have hle : ∀ f : Nat → Nat, ((indices ms').map f).sum ≤ ((indices ms).map f).sum := fun f =>
    (hsub.map f).sum_le_sum fun _ _ => Nat.zero_le _
  have hrestore : ∀ c, IsCut c → (m.restore t).count c = t.count c + _ ∧ (m.restore t').count c = t'.count c + _ :=
    fun c hc => ⟨count_restore hc h hindices, count_restore hc h' fun n hn => hindices n (hsub.subset hn)⟩
  have hbackslash := hrestore '\\' (by decide)
  have hline := hrestore '\n' (by decide)
  have := hle fun n => (m.spans[n]?.getD []).count '\\'
  have := hle fun n => (m.spans[n]?.getD []).count '\n'
  unfold Fewer at *
  omega

/-! ## Settled texts -/

/-- Whether no pass finds anything in the prose of a text. The formulas are masked, or they cut the
prose into pieces if there are placeholder characters in the text. -/
def Settled (s : Text) : Prop :=
  match mask? s with
  | some m => ¬HasMacro m.text
  | none => ∀ t, .prose t ∈ split s → ¬HasMacro t

/-- A text whose formulas are masked is lowered if there is anything to lower in its prose. -/
theorem outcome_normalize_masked {s : Text} {m : Masked} (hm : mask? s = some m) :
    Outcome Fewer (HasMacro m.text) s (normalize s) := by
  have hnormalize : normalize s = m.restore (lowerProse m.text) := by rw [normalize, Segment.mapProse, hm]
  conv => arg 3; rw [← Segment.restore_text hm]
  rw [hnormalize]
  refine (outcome_lowerProse m.text).map m.restore fun hfewer => ?_
  obtain ⟨⟨hopen, hclose⟩, rfl⟩ := Segment.mask?_eq_some_iff.1 hm
  obtain ⟨ms, q, hread, hindices, -⟩ := exists_reads_maskFrom hopen hclose (p := .free) rfl 0
  obtain ⟨ms', q', hread', hsub, -⟩ := reads_lowerProse hread
  have hvalid : ∀ n ∈ indices ms, n < (mathSpans (split s)).length := by
    intro n hn
    rw [hindices, List.mem_range'_1] at hn
    rw [mathSpans, List.length_map]
    omega
  exact hfewer.restore hread hread' hsub hvalid

def lowerSegment : Segment → Text
  | .prose t => lowerProse t
  | g => g.raw

theorem mapText_lowerProse (s : Text) : Segment.mapText lowerProse s = (split s).flatMap lowerSegment := by
  rw [Segment.mapText, Segment.mapSegments]
  refine congrArg (fun f => (split s).flatMap f) (funext fun g => ?_)
  cases g <;> rfl

/-- Pieces of prose are lowered if there is anything to lower in one of them. -/
theorem outcome_lowerSegments (ss : List Segment) :
    Outcome Fewer (∃ t, .prose t ∈ ss ∧ HasMacro t) (joinRaw ss) (ss.flatMap lowerSegment) := by
  induction ss with
  | nil => exact .inl ⟨by simp, rfl⟩
  | cons g ss ih =>
    cases g with
    | math k b =>
      exact (ih.map ((Segment.math k b).raw ++ ·) fun h => h.append_left _).congr (by simp)
    | prose t =>
      have hiff : (∃ u, .prose u ∈ Segment.prose t :: ss ∧ HasMacro u) ↔
          HasMacro t ∨ ∃ u, .prose u ∈ ss ∧ HasMacro u := by simp [or_and_right, exists_or]
      have hjoin : joinRaw (.prose t :: ss) = t ++ joinRaw ss := rfl
      have hlower : (Segment.prose t :: ss).flatMap lowerSegment = lowerProse t ++ ss.flatMap lowerSegment := rfl
      rw [Outcome, hiff, not_or, hjoin, hlower]
      rcases outcome_lowerProse t with ⟨hasked, heq⟩ | ⟨hasked, hfewer⟩
      · rw [heq]
        rcases ih with ⟨hasked', heq'⟩ | ⟨hasked', hfewer'⟩
        · exact .inl ⟨⟨hasked, hasked'⟩, congrArg (t ++ ·) heq'⟩
        · exact .inr ⟨.inr hasked', hfewer'.append_left t⟩
      · exact .inr ⟨.inl hasked, hfewer.append ih.eq_or⟩

/-- **A text is lowered** if it is not settled, and then it has fewer backslashes or line endings. -/
theorem outcome_normalize (s : Text) : Outcome Fewer (¬Settled s) s (normalize s) := by
  unfold Settled
  split
  · next m hm => exact (outcome_normalize_masked hm).congr (by simp)
  · next hm =>
    have hnormalize : normalize s = (split s).flatMap lowerSegment := by
      rw [normalize, Segment.mapProse, hm, mapText_lowerProse]
    have hsegments := outcome_lowerSegments (split s)
    rw [Segment.split_raw, ← hnormalize] at hsegments
    exact hsegments.congr (by simp)

theorem normalize_eq_self_iff (s : Text) : normalize s = s ↔ Settled s := by
  rcases outcome_normalize s with ⟨hsettled, heq⟩ | ⟨hsettled, hfewer⟩
  · exact iff_of_true heq (Classical.not_not.1 hsettled)
  · exact iff_of_false hfewer.ne hsettled

/-- **Lowering a text again changes nothing** exactly if the first time left nothing to lower. -/
theorem normalize_normalize_iff (s : Text) : normalize (normalize s) = normalize s ↔ Settled (normalize s) :=
  normalize_eq_self_iff (normalize s)

/-- A solution inside of another one is lowered the second time. -/
example : let s : Text := "\\begin{solution}\\begin{solution}a\\end{solution}b\\end{solution}".toList
    normalize (normalize s) ≠ normalize s := by decide +kernel

/-- **Every text is settled** after lowering it often enough. -/
theorem exists_settled_iterate (s : Text) : ∃ n, Settled (Nat.iterate normalize n s) := by
  induction s using Fewer.wellFounded.induction with
  | _ s ih =>
    rcases outcome_normalize s with ⟨hsettled, -⟩ | ⟨-, hfewer⟩
    · exact ⟨0, Classical.not_not.1 hsettled⟩
    · obtain ⟨n, hn⟩ := ih (normalize s) hfewer
      exact ⟨n + 1, hn⟩

end Coursebook.Command
