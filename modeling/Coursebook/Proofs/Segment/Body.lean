/-
Bodies of formulas, read from the left. A body is closed by the dollars
behind it if a reader who goes through it is neither behind a backslash nor
behind a dollar at its end, and met no closing dollars on the way
(`closes_iff`).

What the reader remembers is one of three places. A piece that leads every
place back to the plain one is `Inert`: exchanging one inert piece for
another changes nothing for the reader (`Inert.closes_append`), wherever in
the body it stands, even if a backslash in front of it takes its first
character.
-/
import Coursebook.Proofs.Segment.Map
import Coursebook.Text.Blank

namespace Coursebook.Segment

/-- Where the reader of a body stands. -/
inductive Place where
  | plain
  | escaped
  | dollar

/-- Whether the rest of a body lets the dollars behind it close the formula. -/
def closes (k : MathKind) : Place → Text → Bool
  | .plain, [] => true
  | .escaped, [] | .dollar, [] => false
  | .escaped, _ :: s => closes k .plain s
  | .plain, c :: s =>
    if c = '\\' then closes k .escaped s
    else if c = '$' then k = .display && closes k .dollar s
    else closes k .plain s
  | .dollar, c :: s =>
    if c = '\\' then closes k .escaped s
    else if c = '$' then false
    else closes k .plain s

theorem closes_cons (k : MathKind) (p : Place) {c : Char} (hb : c ≠ '\\') (hd : c ≠ '$') (s : Text) :
    closes k p (c :: s) = closes k .plain s := by
  cases p <;> simp [closes, hb, hd]

/-! ## Closing and cutting -/

theorem firstUnescaped_iff_cut {needle b : Text} (hn : needle ≠ []) :
    FirstUnescaped needle b ↔ cutUnescaped? needle (b ++ needle) = some (b, []) := by
  rw [cutUnescaped?_eq_some_iff hn]
  simp

theorem firstUnescaped_cons {needle a : Text} {c : Char} (hn : needle ≠ []) (hc : c ≠ '\\')
    (hp : ¬needle <+: c :: (a ++ needle)) : FirstUnescaped needle (c :: a) ↔ FirstUnescaped needle a := by
  rw [firstUnescaped_iff_cut hn, firstUnescaped_iff_cut hn, List.cons_append, cutUnescaped?_cons hc hp]
  simp

theorem firstUnescaped_escape {needle a : Text} {c : Char} (hn : needle ≠ [])
    (hp : ¬needle <+: '\\' :: c :: (a ++ needle)) : FirstUnescaped needle ('\\' :: c :: a) ↔ FirstUnescaped needle a := by
  rw [firstUnescaped_iff_cut hn, firstUnescaped_iff_cut hn, List.cons_append, List.cons_append,
    cutUnescaped?_escape hp]
  simp

/-- A needle at the head comes first, so it is in front of any other. -/
theorem not_firstUnescaped {needle a : Text} {c : Char} (h : needle <+: c :: (a ++ needle)) :
    ¬FirstUnescaped needle (c :: a) := fun hf =>
  absurd (hf.first [] h rfl) (by simp)

theorem not_firstUnescaped_backslash (needle : Text) : ¬FirstUnescaped needle ['\\'] := fun h =>
  absurd h.unescaped (by decide)

theorem closes_inline_iff (b : Text) : closes .inline .plain b = true ↔ FirstUnescaped ['$'] b := by
  fun_induction Text.endsEscaped b with
  | case1 => simp [closes, FirstUnescaped.nil]
  | case2 => simp [closes, not_firstUnescaped_backslash]
  | case3 c s ih =>
    rw [firstUnescaped_escape (by simp) (by simp [List.cons_prefix_cons]), ← ih]
    rfl
  | case4 c s h1 h2 ih =>
    have hb : c ≠ '\\' := Text.ne_backslash h1 h2
    by_cases hd : c = '$'
    · subst hd
      simp [closes, not_firstUnescaped, List.cons_prefix_cons]
    · rw [closes_cons .inline .plain hb hd, ih,
        firstUnescaped_cons (by simp) hb (by simp [List.cons_prefix_cons, Ne.symm hd])]

/-- With a dollar in front, the body is one that the reader goes on with from behind that dollar. -/
theorem closes_display_iff (b : Text) :
    (closes .display .plain b = true ↔ FirstUnescaped ['$', '$'] b) ∧
      (closes .display .dollar b = true ↔ FirstUnescaped ['$', '$'] ('$' :: b)) := by
  have hdollar : ∀ {s : Text}, s.head? ≠ some '$' → s ≠ [] →
      (FirstUnescaped ['$', '$'] ('$' :: s) ↔ FirstUnescaped ['$', '$'] s) := by
    intro s hs hne
    refine firstUnescaped_cons (by simp) (by decide) ?_
    cases s with
    | nil => exact absurd rfl hne
    | cons c s => simpa [List.cons_prefix_cons, eq_comm] using hs
  fun_induction Text.endsEscaped b with
  | case1 => simp [closes, FirstUnescaped.nil, not_firstUnescaped, List.cons_prefix_cons]
  | case2 =>
    rw [hdollar (by simp) (by simp)]
    simp [closes, not_firstUnescaped_backslash]
  | case3 c s ih =>
    rw [hdollar (by simp) (by simp), firstUnescaped_escape (by simp) (by simp [List.cons_prefix_cons]), ← ih.1]
    exact ⟨.rfl, .rfl⟩
  | case4 c s h1 h2 ih =>
    have hb : c ≠ '\\' := Text.ne_backslash h1 h2
    by_cases hd : c = '$'
    · subst hd
      refine ⟨ih.2, ?_⟩
      simp [closes, not_firstUnescaped, List.cons_prefix_cons]
    · rw [closes_cons .display .plain hb hd, closes_cons .display .dollar hb hd, hdollar (by simpa using hd) (by simp),
        firstUnescaped_cons (by simp) hb (by simp [List.cons_prefix_cons, Ne.symm hd])]
      exact ⟨ih.1, ih.1⟩

/-- **A body lets its dollars close it** if they are the first ones in it that are not escaped. -/
theorem closes_iff (k : MathKind) (b : Text) : closes k .plain b = true ↔ FirstUnescaped k.delimiter b := by
  cases k with
  | inline => exact closes_inline_iff b
  | display => exact (closes_display_iff b).1

/-! ## Inert pieces -/

/-- Neither a backslash nor a dollar. -/
def NoMarks (w : Text) : Prop := ∀ c ∈ w, c ≠ '\\' ∧ c ≠ '$'

instance : DecidablePred NoMarks := fun w => List.decidableBAll (fun c => c ≠ '\\' ∧ c ≠ '$') w

theorem NoMarks.append {w v : Text} (hw : NoMarks w) (hv : NoMarks v) : NoMarks (w ++ v) := fun c hc =>
  (List.mem_append.1 hc).elim (hw c) (hv c)

theorem NoMarks.of_forall {p : Char → Bool} {w : Text} (hw : ∀ c ∈ w, p c = true) (hb : p '\\' = false)
    (hd : p '$' = false) : NoMarks w := fun c hc => by
  have := hw c hc
  constructor <;> rintro rfl <;> simp_all

theorem NoMarks.of_blank {w : Text} (hw : Text.isBlankText w = true) : NoMarks w :=
  .of_forall (List.all_eq_true.1 hw) (by decide) (by decide)

theorem noMarks_leadingBlank (s : Text) : NoMarks (Text.leadingBlank s) := .of_blank List.all_takeWhile

theorem closes_noMarks_append (k : MathKind) {w : Text} (hw : NoMarks w) (s : Text) :
    closes k .plain (w ++ s) = closes k .plain s := by
  induction w with
  | nil => rfl
  | cons c w ih =>
    obtain ⟨hc, hw⟩ := List.forall_mem_cons.1 hw
    rw [List.cons_append, closes_cons k .plain hc.1 hc.2, ih hw]

/-- A piece behind which the reader is at the plain place, wherever he was in front of it. -/
inductive Inert : Text → Prop where
  | mild {c : Char} {w : Text} (hb : c ≠ '\\') (hd : c ≠ '$') (hw : NoMarks w) : Inert (c :: w)
  | escape {c : Char} {w : Text} (hw : NoMarks (c :: w)) : Inert ('\\' :: c :: w)

theorem Inert.length_pos {m : Text} (hm : Inert m) : 0 < m.length := by
  cases hm <;> simp

theorem Inert.closes_append {m : Text} (hm : Inert m) (k : MathKind) (p : Place) (s : Text) :
    closes k p (m ++ s) = closes k .plain s := by
  cases hm with
  | mild hb hd hw => rw [List.cons_append, closes_cons k p hb hd, closes_noMarks_append k hw]
  | @escape c w hw =>
    -- The reader takes the backslash and the next character for a pair, or only the second one of a pair.
    have htail : closes k .plain (w ++ s) = closes k .plain s :=
      closes_noMarks_append k (List.forall_mem_cons.1 hw).2 s
    cases p with
    | plain | dollar => exact htail
    | escaped => exact closes_noMarks_append k hw s

end Coursebook.Segment
