/-
Forced line breaks and blank lines, the two passes after the macros.

A line break takes its optional length with it, and whatever formulas that
holds. It is found only where a reader is not behind a backslash, since a
backslash in front would have been the first of the two; so the reader's
escapes are the same before and after (`reads_lowerLineBreaks`). Closing
blank lines exchanges white space alone (`respaces_closeBlankLines`).
-/
import Coursebook.Proofs.Command.Edit
import Coursebook.Proofs.Text.Trim

namespace Coursebook.Command

open Text (isBlankText)

/-! ## The command -/

/-- A forced line break: its command, an optional length in brackets, and white space. -/
inductive IsBreak : Text → Prop where
  | plain {b : Text} (hb : isBlankText b = true) : IsBreak ('\\' :: '\\' :: b)
  | spaced (u : Text) {b : Text} (hb : isBlankText b = true) : IsBreak ('\\' :: '\\' :: '[' :: (u ++ ']' :: b))
  | word {b : Text} (hb : isBlankText b = true) : IsBreak ("\\newline".toList ++ b)

theorem isBlankText_spaces (s : Text) : isBlankText (s.takeWhile Text.isSpaceOrTab) = true := by
  refine List.all_eq_true.2 fun c hc => ?_
  have : Text.isSpaceOrTab c = true := List.all_eq_true.1 List.all_takeWhile c hc
  rw [Text.isSpaceOrTab, Bool.or_eq_true, decide_eq_true_eq, decide_eq_true_eq] at this
  rcases this with rfl | rfl <;> decide

theorem exists_blank_behind (s : Text) :
    ∃ b, isBlankText b = true ∧ s = b ++ dropLineEnd (s.dropWhile Text.isSpaceOrTab) := by
  have hend : ∀ t, ∃ e, isBlankText e = true ∧ t = e ++ dropLineEnd t := by
    intro t
    unfold dropLineEnd Text.afterLineEnd?
    split
    · exact ⟨['\n'], by decide, rfl⟩
    · exact ⟨['\r', '\n'], by decide, rfl⟩
    · exact ⟨[], by decide, rfl⟩
  obtain ⟨e, he, heq⟩ := hend (s.dropWhile Text.isSpaceOrTab)
  refine ⟨s.takeWhile Text.isSpaceOrTab ++ e, by rw [Text.isBlankText_append, isBlankText_spaces, he]; rfl, ?_⟩
  rw [List.append_assoc, ← heq, List.takeWhile_append_dropWhile]

theorem dropSpacing_cases (s : Text) : dropSpacing s = s ∨ ∃ u, s = '[' :: (u ++ ']' :: dropSpacing s) := by
  unfold dropSpacing
  split
  · next t =>
    split
    · next r hr =>
      refine .inr ⟨t.takeWhile fun c => c ≠ ']' ∧ c ≠ '\n', ?_⟩
      rw [← hr, List.takeWhile_append_dropWhile]
    · exact .inl rfl
  · exact .inl rfl

theorem eq_of_lineBreak? {s out r : Text} (h : lineBreak? s = some (out, r)) :
    out = hardBreak ∧ ∃ w, IsBreak w ∧ s = w ++ r := by
  obtain ⟨t, ht, heq⟩ := Option.map_eq_some_iff.1 h
  obtain ⟨rfl, rfl⟩ := Prod.mk.inj heq
  refine ⟨rfl, ?_⟩
  obtain ⟨b, hb, hbt⟩ := exists_blank_behind t
  unfold breakCommand? at ht
  split at ht
  · next s =>
    obtain rfl := Option.some.inj ht
    rcases dropSpacing_cases s with hs | ⟨u, hs⟩
    · exact ⟨_, .plain hb, by rw [List.cons_append, List.cons_append, ← hbt, hs]⟩
    · refine ⟨_, .spaced u hb, ?_⟩
      simp only [List.cons_append, List.append_assoc, ← hbt, ← hs]
  · next s _ =>
    simp only [Option.bind_eq_bind, Option.bind_eq_some_iff, Option.ite_none_right_eq_some, Option.some.injEq] at ht
    obtain ⟨t', hafter, -, rfl⟩ := ht
    refine ⟨_, .word hb, ?_⟩
    rw [Text.after?_eq_some.1 hafter, List.append_assoc, ← hbt]

theorem IsBreak.length_pos {w : Text} (h : IsBreak w) : 0 < w.length := by
  cases h <;> simp

theorem IsBreak.backslash_mem {w : Text} (h : IsBreak w) : '\\' ∈ w := by
  cases h <;> simp

theorem lineBreak?_of_ne {c : Char} (hc : c ≠ '\\') (s : Text) : lineBreak? (c :: s) = none := by
  cases h : lineBreak? (c :: s) with
  | none => rfl
  | some p =>
    obtain ⟨-, w, hw, heq⟩ := eq_of_lineBreak? h
    cases hw <;> exact absurd (List.cons.inj heq).1 hc

/-- Nothing that a backslash stands in front of is a line break, if that backslash is not the first of two. -/
theorem lineBreak?_behind {s : Text} (h : lineBreak? ('\\' :: s) = none) : lineBreak? s = none := by
  cases s with
  | nil => rfl
  | cons c s =>
    by_cases hc : c = '\\'
    · simp [hc, lineBreak?, breakCommand?] at h
    · exact lineBreak?_of_ne hc s

/-! ## Reading a line break -/

theorem Place.escaped_after_blank {p : Place} (hp : p.escaped = false) {b : Text} (hb : isBlankText b = true) :
    (p.after b).escaped = false := by
  cases b with
  | nil => exact hp
  | cons c b =>
    rw [Place.after_blank hb (by simp)]
    rfl

/-- A line break holds no dollar and no formula, unless it has a length. -/
theorem Reads.lineBreak {w s : Text} (hw : IsBreak w) {p r : Place} (hp : p.escaped = false) {ms : List Mark}
    (h : Reads p (w ++ s) ms r) : ∃ q ms₁ ms₂, Reads q s ms₂ r ∧ q.escaped = false ∧ ms = ms₁ ++ ms₂ ∧
      (.spacing ∈ ms₁ ∨ solid ms₁ = []) := by
  have htwo : (p.after ['\\', '\\']).escaped = false ∧ (p.after ['\\', '\\']).paired = true := by
    rw [Place.after_cons, Place.after_cons, Place.after_nil, Place.escaped_next, Place.paired_next, Place.escaped_next, hp]
    decide
  cases hw with
  | @plain b hb =>
    have hplain : Plain (['\\', '\\'] ++ b) := Plain.append (by decide) (plain_of_isBlankText hb)
    obtain ⟨ms₂, h₂, rfl⟩ := Reads.head_inv (s := ['\\', '\\'] ++ b) hplain.isCut h
    refine ⟨_, _, ms₂, h₂, ?_, rfl, .inr (Place.solid_seen_plain hplain p)⟩
    rw [Place.after_append]
    exact Place.escaped_after_blank htwo.1 hb
  | @spaced u b hb =>
    rw [List.cons_append, List.cons_append, List.cons_append, List.append_assoc, List.cons_append] at h
    obtain ⟨ms₂, h₂, rfl⟩ := Reads.head_inv (s := ['\\', '\\']) (Plain.isCut (by decide)) h
    obtain ⟨ms₃, h₃, rfl⟩ := h₂.cons_inv (c := '[') (by decide)
    obtain ⟨q, ms₄, ms₅, -, h₅, rfl⟩ := h₃.cut_cons (c := ']') (by decide)
    have hplain : Plain (']' :: b) := Plain.append (w := [']']) (by decide) (plain_of_isBlankText hb)
    obtain ⟨ms₆, h₆, rfl⟩ := Reads.head_inv (s := ']' :: b) hplain.isCut h₅
    have hspacing : .spacing ∈ (p.after ['\\', '\\']).marks '[' := Place.spacing_mem_marks_iff.2 ⟨rfl, htwo.2⟩
    refine ⟨_, (p.after ['\\', '\\']).marks '[' ++ (ms₄ ++ q.seen (']' :: b)), ms₆, h₆, ?_,
      by simp only [List.append_assoc], .inl (List.mem_append_left _ hspacing)⟩
    exact Place.escaped_after_blank (p := q.next ']') (q.escaped_next ']') hb
  | @word b hb =>
    have hends : Ends "\\newline".toList := ⟨"\\newlin".toList, 'e', by decide, by decide⟩
    have hplain : Plain ("\\newline".toList ++ b) := Plain.append (by decide) (plain_of_isBlankText hb)
    obtain ⟨ms₂, h₂, rfl⟩ := Reads.head_inv hplain.isCut h
    refine ⟨_, _, ms₂, h₂, ?_, rfl, .inr (Place.solid_seen_plain hplain p)⟩
    exact (Place.of_run_none ((hends.append_blank hb).run_after p)).1

/-! ## Lowering line breaks -/

theorem lowerLineBreaks_keep {c : Char} {s : Text} (h : lineBreak? (c :: s) = none) :
    lowerLineBreaks (c :: s) = c :: lowerLineBreaks s := Text.replaceMatches_none h

theorem lowerLineBreaks_break {s r : Text} (h : lineBreak? s = some (hardBreak, r)) :
    lowerLineBreaks s = hardBreak ++ lowerLineBreaks r := by
  obtain ⟨-, w, hw, rfl⟩ := eq_of_lineBreak? h
  cases w with
  | nil => exact absurd hw.length_pos (by simp)
  | cons c w => exact Text.replaceMatches_some h (by simp)

theorem lowerLineBreaks_append {t : Text} (ht : '\\' ∉ t) (s : Text) :
    lowerLineBreaks (t ++ s) = t ++ lowerLineBreaks s := by
  induction t with
  | nil => rfl
  | cons c t ih =>
    rw [List.mem_cons, not_or] at ht
    rw [List.cons_append, lowerLineBreaks_keep (lineBreak?_of_ne (Ne.symm ht.1) _), ih ht.2, List.cons_append]

theorem solid_marks_append {p q : Place} (h : p.Alike q) (c : Char) {ms' ms : List Mark} {P : Prop}
    (hms : (solid ms').Sublist (solid ms) ∧ (P → solid ms' = solid ms)) :
    (solid (p.marks c ++ ms')).Sublist (solid (q.marks c ++ ms)) ∧
      (P → solid (p.marks c ++ ms') = solid (q.marks c ++ ms)) := by
  rw [solid_append, solid_append, h.solid_marks]
  exact ⟨hms.1.append_left _, fun hp => by rw [hms.2 hp]⟩

/-- **Lowering line breaks** keeps the dollars and formulas of a text, but those in the length of a
line break. -/
theorem reads_lowerLineBreaks {s : Text} {p q r : Place} {ms : List Mark} (h : Reads q s ms r) (hpq : p.Alike q)
    (hs : q.escaped = true → lineBreak? s = none) : ∃ ms' r', Reads p (lowerLineBreaks s) ms' r' ∧
      (solid ms').Sublist (solid ms) ∧ (.spacing ∉ ms → solid ms' = solid ms) := by
  induction hn : s.length using Nat.strongRecOn generalizing s p q ms with
  | ind n ih =>
  cases h with
  | nil =>
    have hnil : Reads p (lowerLineBreaks []) [] p := by
      rw [lowerLineBreaks, Text.replaceMatches]
      exact .nil p
    exact ⟨[], p, hnil, .refl _, fun _ => rfl⟩
  | @char _ _ c s ms hopen hclose h =>
    cases hbreak : lineBreak? (c :: s) with
    | none =>
      have hnext : (q.next c).escaped = true → lineBreak? s = none := by
        intro hq
        have hc : c = '\\' := by
          rw [Place.escaped_next, Bool.and_eq_true, decide_eq_true_eq] at hq
          exact hq.1
        exact lineBreak?_behind (hc ▸ hbreak)
      obtain ⟨ms', r', hr, hsub, hsame⟩ := ih s.length (by simp [← hn]) h (hpq.next c) hnext rfl
      rw [lowerLineBreaks_keep hbreak]
      refine ⟨_, r', .char hopen hclose hr, ?_⟩
      have := solid_marks_append hpq c ⟨hsub, hsame⟩
      exact ⟨this.1, fun ho => this.2 fun hm => ho (List.mem_append_right _ hm)⟩
    | some m =>
      obtain ⟨out, rest⟩ := m
      obtain ⟨rfl, w, hw, heq⟩ := eq_of_lineBreak? hbreak
      have hq : q.escaped = false := by
        rw [← Bool.not_eq_true]
        exact fun hq => by simp [hs hq] at hbreak
      have hread : Reads q (c :: s) (q.marks c ++ ms) r := .char hopen hclose h
      rw [heq] at hread
      obtain ⟨q', ms₁, ms₂, h₂, hq', hms, hone⟩ := hread.lineBreak hw hq
      have hp' : (p.after hardBreak).escaped = false := Place.escaped_after_blank (hpq.trans hq) (by decide)
      have hlength : rest.length < n := by
        have := congrArg List.length heq
        have := hw.length_pos
        simp only [List.length_append] at *
        omega
      obtain ⟨ms', r', hr, hsub, hsame⟩ := ih rest.length hlength h₂ (hp'.trans hq'.symm) (by simp [hq']) rfl
      have hhard : Reads p hardBreak [] (p.after hardBreak) := by
        have := Reads.of_not_mem p (s := hardBreak) (by decide) (by decide)
        rwa [Place.seen_inert (by decide)] at this
      rw [lowerLineBreaks_break hbreak, hms, solid_append]
      refine ⟨ms', r', hhard.append hr, hsub.trans (List.sublist_append_right _ _), fun ho => ?_⟩
      rw [List.mem_append, not_or] at ho
      rw [hone.resolve_left ho.1, List.nil_append, hsame ho.2]
  | @formula _ _ k s ms h =>
    have hbackslash : '\\' ∉ Segment.placeholder k := IsCut.not_mem (by decide) k
    have hlength : s.length < n := by
      rw [← hn, Segment.placeholder_append]
      simp
      omega
    obtain ⟨ms', r', hr, hsub, hsame⟩ := ih s.length hlength (p := .free) h rfl (fun hfree => Bool.noConfusion hfree) rfl
    rw [lowerLineBreaks_append hbackslash]
    refine ⟨_, r', .formula p k hr, ?_, fun ho => ?_⟩ <;> rw [show p.escaped = q.escaped from hpq]
    · exact hsub.cons_cons _
    · exact congrArg (_ :: ·) (hsame fun hm => ho (List.mem_cons_of_mem _ hm))

/-- Whether a forced line break stands in a text. -/
def HasLineBreak (s : Text) : Prop := ∃ t, t <:+ s ∧ (breakCommand? t).isSome

theorem outcome_lowerLineBreaks (s : Text) :
    Outcome (fun x y => y.count '\\' < x.count '\\') (HasLineBreak s) s (lowerLineBreaks s) := by
  have hiff : (∃ t, t <:+ s ∧ (lineBreak? t).isSome) ↔ HasLineBreak s := by simp [HasLineBreak, lineBreak?]
  refine (Outcome.replaceMatches rfl ?_ ?_ ?_ s).congr hiff
  · intro c s out r h
    obtain ⟨-, w, hw, heq⟩ := eq_of_lineBreak? h
    exact Text.length_of_match heq hw.length_pos
  · intro c x y h
    rw [List.count_cons, List.count_cons]
    omega
  · intro s out r r' h hr
    obtain ⟨rfl, w, hw, rfl⟩ := eq_of_lineBreak? h
    have hle : r'.count '\\' ≤ r.count '\\' := by
      rcases hr with rfl | hr
      · exact Nat.le_refl _
      · exact Nat.le_of_lt hr
    have hhard : hardBreak.count '\\' = 0 := by decide
    have := List.count_pos_iff.2 hw.backslash_mem
    rw [List.count_append, List.count_append]
    omega

/-! ## Blank lines -/

theorem eq_of_skipBlankLines {s r : Text} {n : Nat} (h : skipBlankLines s = (n, r)) :
    ∃ w, isBlankText w = true ∧ w.count '\n' = n ∧ s = w ++ r := by
  fun_induction skipBlankLines s generalizing n r with
  | case1 s r' hr' n' t' ht' ih =>
    obtain ⟨rfl, rfl⟩ := Prod.mk.inj h
    obtain ⟨w, hw, hcount, hr⟩ := ih ht'
    have hnone : (s.takeWhile Text.isSpaceOrTab).count '\n' = 0 := by
      refine List.count_eq_zero.2 fun hmem => ?_
      have := List.all_eq_true.1 List.all_takeWhile _ hmem
      simp [Text.isSpaceOrTab] at this
    refine ⟨s.takeWhile Text.isSpaceOrTab ++ '\n' :: w, ?_, ?_, ?_⟩
    · rw [Text.isBlankText_append, isBlankText_spaces]
      simpa [isBlankText, Text.isBlank] using hw
    · rw [List.count_append, hnone, List.count_cons_self, hcount, Nat.zero_add]
    · rw [List.append_assoc, List.cons_append, ← hr, ← hr', List.takeWhile_append_dropWhile]
  | case2 s h' =>
    obtain ⟨rfl, rfl⟩ := Prod.mk.inj h
    exact ⟨[], rfl, rfl, rfl⟩

theorem eq_of_extraBlankLines? {s out r : Text} (h : extraBlankLines? s = some (out, r)) :
    out = ['\n', '\n'] ∧ ∃ w, isBlankText w = true ∧ 2 < w.count '\n' ∧ s = w ++ r := by
  unfold extraBlankLines? at h
  split at h
  · next s =>
    split at h
    · next n r' hskip =>
      obtain ⟨rfl, rfl⟩ := Prod.mk.inj (Option.some.inj h)
      obtain ⟨w, hw, hcount, rfl⟩ := eq_of_skipBlankLines hskip
      exact ⟨rfl, '\n' :: w, by simpa [isBlankText, Text.isBlank] using hw, by simp [hcount], rfl⟩
    · simp at h
  · simp at h

theorem length_of_extraBlankLines? {c : Char} {s out r : Text} (h : extraBlankLines? (c :: s) = some (out, r)) :
    r.length ≤ s.length := by
  obtain ⟨-, w, -, hcount, heq⟩ := eq_of_extraBlankLines? h
  have := List.count_le_length (a := '\n') (l := w)
  exact Text.length_of_match heq (by omega)

/-- **Closing blank lines** exchanges white space alone. -/
theorem respaces_closeBlankLines (s : Text) : Respaces s (closeBlankLines s) := by
  refine Text.replaceMatches_induct (Q := Respaces) .refl ?_ ?_ length_of_extraBlankLines? s
  · exact fun _ ih => ih.cons _
  · intro c s out r h ih
    obtain ⟨rfl, w, hw, hcount, heq⟩ := eq_of_extraBlankLines? h
    have hne : w ≠ [] := by
      rintro rfl
      simp at hcount
    rw [heq]
    exact (Respaces.blank hw (by decide) hne (by simp)).append ih

/-- Whether more than one blank line stands in a text at a place. -/
def HasBlankLines (s : Text) : Prop := ∃ t, t <:+ s ∧ (extraBlankLines? t).isSome

theorem outcome_closeBlankLines (s : Text) :
    Outcome (fun x y => y.count '\n' < x.count '\n') (HasBlankLines s) s (closeBlankLines s) := by
  refine Outcome.replaceMatches rfl length_of_extraBlankLines? ?_ ?_ s
  · intro c x y h
    rw [List.count_cons, List.count_cons]
    omega
  · intro s out r r' h hr
    obtain ⟨rfl, w, -, hcount, rfl⟩ := eq_of_extraBlankLines? h
    have hle : r'.count '\n' ≤ r.count '\n' := by
      rcases hr with rfl | hr
      · exact Nat.le_refl _
      · exact Nat.le_of_lt hr
    have htwo : ['\n', '\n'].count '\n' = 2 := by decide
    rw [List.count_append, List.count_append]
    omega

end Coursebook.Command
