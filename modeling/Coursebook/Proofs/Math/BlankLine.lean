/-
Blank lines in formulas. A blank line is the space between two line endings
with nothing but spaces and tabs in it, and each of the endings may be a
line feed or a carriage return with a line feed. The markdown engine ends a
paragraph there, also in the middle of a formula.

Two places look for blank lines, and each of them knows only some. To the
splitting, two dollars are no inline formula if two adjacent line feeds stand
between them. The repair of a displayed formula closes the blank lines that a
line feed ends, with all the white space behind them. A blank line that a
carriage return ends goes if it is in such a run of white space, and stays
otherwise (`hasBlankLine_closeBlankLines_iff`).

`blankLine_split_normalize_iff` says which texts keep a blank line in a
formula.
-/
import Coursebook.Proofs.Math.Repair

namespace Coursebook.Math

open Segment (IsBody math mapBody split)

/-! ## Blank lines -/

def lineEndings : List Text := [['\n'], ['\r', '\n']]

/-- Nothing but spaces and tabs. -/
def IsSpacing (p : Text) : Prop := p.all Text.isSpaceOrTab = true

/-- A line ending, and behind it a line of spacing with the ending `e`. -/
def HasBlankLineTo (e b : Text) : Prop := ∃ l ∈ lineEndings, ∃ p, IsSpacing p ∧ l ++ (p ++ e) <:+: b

/-- Two line endings with nothing but spaces and tabs between them. -/
def HasBlankLine (b : Text) : Prop := ∃ e ∈ lineEndings, HasBlankLineTo e b

/-- White space that the repair makes one line ending: a blank line that a line feed ends, and what is
blank behind it. -/
def IsRun (m : Text) : Prop := ∃ p w, m = '\n' :: (p ++ '\n' :: w) ∧ IsSpacing p ∧ Text.isBlankText w = true

/-- A blank line in an inline body that is no padding inside the dollars. White space behind a last backslash
is not taken for padding. -/
def InlineKeepsBlankLine (b : Text) : Prop :=
  ∃ a p e r, b = a ++ '\n' :: (p ++ (e ++ r)) ∧ IsSpacing p ∧ e ∈ lineEndings ∧ Text.isBlankText a = false ∧
    (Text.isBlankText r = true → (Text.trimEnd b).getLast? = some '\\')

/-- A blank line up to a carriage return in a displayed body, with its first line ending in no run of white
space. -/
def DisplayKeepsBlankLine (b : Text) : Prop :=
  ∃ a p r, b = a ++ '\n' :: (p ++ '\r' :: '\n' :: r) ∧ IsSpacing p ∧ ∀ m, m <:+ a ++ ['\n'] → ¬IsRun m

/-- Whether a body of the given kind, its tokens repaired, is left with a blank line. -/
def KeepsBlankLine : MathKind → Text → Prop
  | .inline, b => InlineKeepsBlankLine b
  | .display, b => DisplayKeepsBlankLine b

theorem hasBlankLine_iff {b : Text} : HasBlankLine b ↔ HasBlankLineTo ['\n'] b ∨ HasBlankLineTo ['\r', '\n'] b := by
  simp [HasBlankLine, lineEndings]

/-- A line of spacing with the ending `e`, at the head of a text. -/
def StartsBlankLine (e s : Text) : Prop := ∃ p, IsSpacing p ∧ p ++ e <+: s

/-- The first of the two endings is a line feed at any rate. -/
theorem hasBlankLineTo_iff {e b : Text} : HasBlankLineTo e b ↔ ∃ p, IsSpacing p ∧ '\n' :: (p ++ e) <:+: b := by
  constructor
  · rintro ⟨l, hl, p, hp, hi⟩
    refine ⟨p, hp, List.IsInfix.trans (List.IsSuffix.isInfix ?_) hi⟩
    simp only [lineEndings, List.mem_cons, List.not_mem_nil, or_false] at hl
    obtain rfl | rfl := hl
    · exact List.suffix_rfl
    · exact List.suffix_cons '\r' _
  · rintro ⟨p, hp, hi⟩
    exact ⟨['\n'], List.mem_cons_self, p, hp, hi⟩

theorem hasBlankLineTo_cons_iff {e : Text} {c : Char} {s : Text} :
    HasBlankLineTo e (c :: s) ↔ c = '\n' ∧ StartsBlankLine e s ∨ HasBlankLineTo e s := by
  simp only [hasBlankLineTo_iff, List.infix_cons_iff, List.cons_prefix_cons, StartsBlankLine]
  constructor
  · rintro ⟨p, hp, ⟨hc, hs⟩ | hs⟩
    · exact .inl ⟨hc.symm, p, hp, hs⟩
    · exact .inr ⟨p, hp, hs⟩
  · rintro (⟨rfl, p, hp, hs⟩ | ⟨p, hp, hs⟩)
    · exact ⟨p, hp, .inl ⟨rfl, hs⟩⟩
    · exact ⟨p, hp, .inr hs⟩

/-! ## Spacing and runs -/

theorem isBlank_of_isSpaceOrTab {c : Char} (h : Text.isSpaceOrTab c = true) : Text.isBlank c = true := by
  simp only [Text.isSpaceOrTab, Bool.or_eq_true, decide_eq_true_eq] at h
  rcases h with rfl | rfl <;> decide

namespace IsSpacing

variable {p : Text}

theorem isBlankText (h : IsSpacing p) : Text.isBlankText p = true :=
  List.all_eq_true.2 fun c hc => isBlank_of_isSpaceOrTab (List.all_eq_true.1 h c hc)

theorem newline_not_mem (h : IsSpacing p) : '\n' ∉ p := fun hm => absurd (List.all_eq_true.1 h _ hm) (by decide)

/-- The spacing at the head of a text is read up to the first other character. -/
theorem dropWhile_append (h : IsSpacing p) {c : Char} (hc : Text.isSpaceOrTab c = false) (s : Text) :
    (p ++ c :: s).dropWhile Text.isSpaceOrTab = c :: s := by
  rw [List.dropWhile_append_of_pos (List.all_eq_true.1 h), List.dropWhile_cons_of_neg (by simp [hc])]

end IsSpacing

theorem startsBlankLine_newline_iff {s : Text} :
    StartsBlankLine ['\n'] s ↔ ∃ u, s.dropWhile Text.isSpaceOrTab = '\n' :: u := by
  constructor
  · rintro ⟨p, hp, u, rfl⟩
    refine ⟨u, ?_⟩
    rw [List.append_assoc]
    exact hp.dropWhile_append (by decide) u
  · rintro ⟨u, hu⟩
    refine ⟨s.takeWhile Text.isSpaceOrTab, List.all_takeWhile, u, ?_⟩
    rw [List.append_assoc, List.singleton_append, ← hu, List.takeWhile_append_dropWhile]

/-- A text that starts with a blank line up to a carriage return starts with none up to a line feed. -/
theorem not_startsBlankLine_newline {s : Text} (h : StartsBlankLine ['\r', '\n'] s) : ¬StartsBlankLine ['\n'] s := by
  rintro ⟨q, hq, u, rfl⟩
  obtain ⟨p, hp, r, hr⟩ := h
  have heq := congrArg (List.dropWhile Text.isSpaceOrTab) hr
  simp only [List.append_assoc, List.cons_append, List.nil_append] at heq
  rw [hp.dropWhile_append (by decide), hq.dropWhile_append (by decide)] at heq
  exact absurd (List.cons.inj heq).1 (by decide)

/-- A line of spacing does not start with a character that is no white space. -/
theorem not_startsBlankLine {e s : Text} (he : e ∈ lineEndings) (hs : ∀ c ∈ s.head?, Text.isBlank c = false) :
    ¬StartsBlankLine e s := by
  rintro ⟨p, hp, r, rfl⟩
  have hblank : Text.isBlankText (p ++ e) = true := by
    have hend : ∀ e ∈ lineEndings, Text.isBlankText e = true := by decide
    rw [Text.isBlankText_append, hp.isBlankText, hend e he, Bool.and_self]
  have hne : p ++ e ≠ [] := by
    have : ∀ e ∈ lineEndings, e ≠ [] := by decide
    simp [this e he]
  obtain ⟨c, t, ht⟩ := List.exists_cons_of_ne_nil hne
  rw [ht] at hs hblank
  have hc := hs c rfl
  simp [Text.isBlankText, hc] at hblank

namespace IsRun

variable {m : Text}

theorem isBlankText (h : IsRun m) : Text.isBlankText m = true := by
  obtain ⟨p, w, rfl, hp, hw⟩ := h
  have hnewline : Text.isBlank '\n' = true := by decide
  have hpad := hp.isBlankText
  simp only [Text.isBlankText, List.all_cons, List.all_append, hnewline, Bool.true_and, Bool.and_eq_true] at hw hpad ⊢
  exact ⟨hpad, hw⟩

/-- A run starts with a blank line up to a line feed, whatever follows. -/
theorem startsBlankLine (h : IsRun m) {s r : Text} (hs : '\n' :: s = m ++ r) : StartsBlankLine ['\n'] s := by
  obtain ⟨p, w, rfl, hp, -⟩ := h
  rw [List.cons_append, List.append_assoc] at hs
  exact ⟨p, hp, w ++ r, by simp [(List.cons.inj hs).2]⟩

/-- A run cut behind one of its line feeds, the first one apart, is a run. -/
theorem cut {a t : Text} (h : IsRun (a ++ '\n' :: t)) (ha : a ≠ []) : IsRun (a ++ ['\n']) := by
  obtain ⟨p, w, heq, hp, hw⟩ := h
  obtain ⟨c, a, rfl⟩ := List.exists_cons_of_ne_nil ha
  obtain ⟨rfl, htail⟩ := List.cons.inj heq
  rcases List.append_eq_append_iff.1 htail with ⟨d, rfl, hd⟩ | ⟨d, rfl, hd⟩
  · -- The line feed stands in the spacing, or it is the one behind it.
    cases d with
    | nil => exact ⟨a, [], rfl, by simpa using hp, rfl⟩
    | cons d ds =>
      obtain ⟨rfl, -⟩ := List.cons.inj hd
      exact absurd (List.mem_append_right a List.mem_cons_self) hp.newline_not_mem
  · cases d with
    | nil => exact ⟨p, [], by simp, hp, rfl⟩
    | cons d ds =>
      obtain ⟨rfl, rfl⟩ := List.cons.inj hd
      refine ⟨p, ds ++ ['\n'], by simp, hp, ?_⟩
      have hds : Text.isBlankText (ds ++ '\n' :: t) = true := hw
      rw [Text.isBlankText_append, Bool.and_eq_true] at hds ⊢
      exact ⟨hds.1, by decide⟩

end IsRun

/-! ## Closing blank lines -/

theorem eq_of_blankLine? {s out r : Text} (h : blankLine? s = some (out, r)) :
    out = ['\n'] ∧ ∃ m, s = m ++ r ∧ IsRun m ∧ ∀ c ∈ r.head?, Text.isBlank c = false := by
  unfold blankLine? at h
  split at h
  · next t =>
    split at h
    · next u hu =>
      obtain ⟨rfl, rfl⟩ := Prod.mk.inj (Option.some.inj h)
      refine ⟨rfl, '\n' :: (t.takeWhile Text.isSpaceOrTab ++ '\n' :: Text.leadingBlank u), ?_,
        ⟨_, _, rfl, List.all_takeWhile, Text.isBlankText_leadingBlank u⟩, Text.isBlank_of_head?_trimStart⟩
      conv => lhs; rw [← List.takeWhile_append_dropWhile (p := Text.isSpaceOrTab) (l := t), hu]
      simp [Text.leadingBlank_append_trimStart]
    · simp at h
  · simp at h

theorem not_startsBlankLine_of_blankLine? {s : Text} (h : blankLine? ('\n' :: s) = none) : ¬StartsBlankLine ['\n'] s := by
  rw [startsBlankLine_newline_iff]
  rintro ⟨u, hu⟩
  simp [blankLine?, hu] at h

theorem shorter_of_blankLine? {c : Char} {s out r : Text} (h : blankLine? (c :: s) = some (out, r)) :
    r.length ≤ s.length := by
  obtain ⟨-, m, hs, ⟨p, w, rfl, -⟩, -⟩ := eq_of_blankLine? h
  exact Text.length_of_match hs (Nat.zero_lt_succ _)

/-- The first line stays as it is. -/
theorem line_closeBlankLines {w : Text} (hw : '\n' ∉ w) (s : Text) :
    w ++ ['\n'] <+: closeBlankLines s ↔ w ++ ['\n'] <+: s := by
  refine Text.replaceMatches_induct (Q := fun s s' => ∀ w : Text, '\n' ∉ w → (w ++ ['\n'] <+: s' ↔ w ++ ['\n'] <+: s))
    ?nil ?keep ?exchange shorter_of_blankLine? s w hw
  case nil => exact fun w _ => .rfl
  case keep =>
    intro c s _ ih w hw
    cases w with
    | nil => simp [List.cons_prefix_cons]
    | cons d w =>
      simp only [List.cons_append, List.cons_prefix_cons, ih w fun hm => hw (List.mem_cons_of_mem d hm)]
  case exchange =>
    intro c s out r h _ w hw
    obtain ⟨rfl, m, hs, ⟨p, v, rfl, -⟩, -⟩ := eq_of_blankLine? h
    rw [hs]
    cases w with
    | nil => simp [List.cons_prefix_cons]
    | cons d w =>
      have hd : d ≠ '\n' := fun hd => hw (hd ▸ List.mem_cons_self)
      simp [List.cons_prefix_cons, hd]

theorem startsBlankLine_closeBlankLines {e : Text} (he : e ∈ lineEndings) (s : Text) :
    StartsBlankLine e (closeBlankLines s) ↔ StartsBlankLine e s := by
  simp only [lineEndings, List.mem_cons, List.not_mem_nil, or_false] at he
  refine exists_congr fun p => and_congr_right fun hp => ?_
  rcases he with rfl | rfl
  · exact line_closeBlankLines hp.newline_not_mem s
  · have hline := line_closeBlankLines (w := p ++ ['\r']) (by simp [hp.newline_not_mem]) s
    simpa using hline

/-! ### Blank lines that are left -/

theorem displayKeepsBlankLine_cons_iff {c : Char} {s : Text} (h : blankLine? (c :: s) = none) :
    DisplayKeepsBlankLine (c :: s) ↔ c = '\n' ∧ StartsBlankLine ['\r', '\n'] s ∨ DisplayKeepsBlankLine s := by
  constructor
  · rintro ⟨a, p, r, heq, hp, hrun⟩
    cases a with
    | nil =>
      obtain ⟨rfl, rfl⟩ := List.cons.inj heq
      exact .inl ⟨rfl, p, hp, r, by simp⟩
    | cons d a =>
      obtain ⟨rfl, rfl⟩ := List.cons.inj heq
      exact .inr ⟨a, p, r, rfl, hp, fun m hm => hrun m (hm.trans (List.suffix_cons c _))⟩
  · rintro (⟨rfl, p, hp, r, rfl⟩ | ⟨a, p, r, rfl, hp, hrun⟩)
    · refine ⟨[], p, r, by simp, hp, fun m hm hr => ?_⟩
      obtain ⟨q, w, rfl, -⟩ := hr
      have := hm.length_le
      simp at this
    · refine ⟨c :: a, p, r, rfl, hp, fun m hm hr => ?_⟩
      rw [List.cons_append, List.suffix_cons_iff] at hm
      rcases hm with rfl | hm
      · -- The run would have been closed here.
        obtain ⟨rfl⟩ : c = '\n' := by obtain ⟨q, w, heq, -⟩ := hr; exact (List.cons.inj heq).1
        exact not_startsBlankLine_of_blankLine? h (hr.startsBlankLine (r := p ++ '\r' :: '\n' :: r) (by simp))
      · exact hrun m hm hr

theorem displayKeepsBlankLine_run_append_iff {m r : Text} (hm : IsRun m) (hr : ∀ c ∈ r.head?, Text.isBlank c = false) :
    DisplayKeepsBlankLine (m ++ r) ↔ DisplayKeepsBlankLine r := by
  constructor
  · rintro ⟨a, p, t, heq, hp, hrun⟩
    rcases List.append_eq_append_iff.1 heq with ⟨d, rfl, rfl⟩ | ⟨d, rfl, hd⟩
    · exact ⟨d, p, t, rfl, hp, fun m' hm' => hrun m' (hm'.trans (by simp [List.append_assoc]))⟩
    · cases d with
      | nil =>
        subst hd
        exact absurd (hr '\n' rfl) (by decide)
      | cons d ds =>
        obtain ⟨rfl, htail⟩ := List.cons.inj hd
        by_cases ha : a = []
        · subst ha
          have hstart : StartsBlankLine ['\r', '\n'] (ds ++ r) := ⟨p, hp, t, by simpa using htail⟩
          exact absurd (hm.startsBlankLine rfl) (not_startsBlankLine_newline hstart)
        · exact absurd (hm.cut ha) (hrun _ List.suffix_rfl)
  · rintro ⟨a, p, t, rfl, hp, hrun⟩
    refine ⟨m ++ a, p, t, by simp, hp, fun m' hm' hrun' => ?_⟩
    rw [List.append_assoc] at hm'
    rcases List.suffix_or_suffix_of_suffix hm' (List.suffix_append m _) with h | ⟨v, rfl⟩
    · exact hrun m' h hrun'
    · -- A run from within `m` would go on to a character that is no white space.
      have hblank := hrun'.isBlankText
      rw [Text.isBlankText_append, Bool.and_eq_true] at hblank
      cases a with
      | nil => exact absurd (hr '\n' rfl) (by decide)
      | cons c a =>
        have hc := hr c rfl
        simp [Text.isBlankText, hc] at hblank

/-- **The repair of a displayed body leaves no blank line up to a line feed**, and exactly the blank lines
up to a carriage return that are in no run of white space. -/
theorem hasBlankLineTo_closeBlankLines (s : Text) :
    ¬HasBlankLineTo ['\n'] (closeBlankLines s) ∧
      (HasBlankLineTo ['\r', '\n'] (closeBlankLines s) ↔ DisplayKeepsBlankLine s) := by
  refine Text.replaceMatches_induct
    (Q := fun s s' => ¬HasBlankLineTo ['\n'] s' ∧ (HasBlankLineTo ['\r', '\n'] s' ↔ DisplayKeepsBlankLine s))
    ?nil ?keep ?exchange shorter_of_blankLine? s
  case nil => simp [hasBlankLineTo_iff, DisplayKeepsBlankLine]
  case keep =>
    intro c s hnone ⟨ihplain, ih⟩
    rw [hasBlankLineTo_cons_iff, hasBlankLineTo_cons_iff, displayKeepsBlankLine_cons_iff hnone, ih]
    have hfirst := fun e he => startsBlankLine_closeBlankLines (e := e) he s
    rw [closeBlankLines] at hfirst
    rw [hfirst _ (by simp [lineEndings]), hfirst _ (by simp [lineEndings])]
    refine ⟨?_, .rfl⟩
    rintro (⟨rfl, hstart⟩ | h)
    · exact not_startsBlankLine_of_blankLine? hnone hstart
    · exact ihplain h
  case exchange =>
    intro c s out r h ⟨ihplain, ih⟩
    obtain ⟨rfl, m, hs, hm, hr⟩ := eq_of_blankLine? h
    have hfirst : ∀ e ∈ lineEndings, ¬StartsBlankLine e (Text.replaceMatches blankLine? r) := fun e he =>
      mt (startsBlankLine_closeBlankLines he r).1 (not_startsBlankLine he hr)
    rw [List.singleton_append, hasBlankLineTo_cons_iff, hasBlankLineTo_cons_iff, hs,
      displayKeepsBlankLine_run_append_iff hm hr, ih]
    simp [hfirst _ (show ['\n'] ∈ lineEndings by decide), hfirst _ (show ['\r', '\n'] ∈ lineEndings by decide), ihplain]

theorem hasBlankLine_closeBlankLines_iff (s : Text) : HasBlankLine (closeBlankLines s) ↔ DisplayKeepsBlankLine s := by
  obtain ⟨hplain, hcarriage⟩ := hasBlankLineTo_closeBlankLines s
  rw [hasBlankLine_iff, or_iff_right hplain, hcarriage]

/-! ## Padding of inline bodies -/

theorem hasBlankLine_iff_exists {b : Text} :
    HasBlankLine b ↔ ∃ a p e r, b = a ++ '\n' :: (p ++ (e ++ r)) ∧ IsSpacing p ∧ e ∈ lineEndings := by
  simp only [HasBlankLine, hasBlankLineTo_iff]
  constructor
  · rintro ⟨e, he, p, hp, a, r, rfl⟩
    exact ⟨a, p, e, r, by simp, hp, he⟩
  · rintro ⟨a, p, e, r, rfl, hp, he⟩
    exact ⟨e, he, p, hp, a, r, by simp⟩

/-- A body is what is left of it with white space around; behind it there is none if the body has to end in
white space. -/
theorem exists_eq_append_inlineBody (b : Text) :
    ∃ x y, b = x ++ (inlineBody b ++ y) ∧ (∀ c ∈ (inlineBody b).head?, Text.isBlank c = false) ∧
      ((Text.trimEnd (Text.trimStart b)).getLast? = some '\\' ∨
        ∀ c ∈ (inlineBody b).getLast?, Text.isBlank c = false) := by
  by_cases hlast : (Text.trimEnd (Text.trimStart b)).getLast? = some '\\'
  · have hbody : inlineBody b = Text.trimStart b := if_pos hlast
    refine ⟨Text.leadingBlank b, [], ?_, hbody ▸ Text.isBlank_of_head?_trimStart, .inl hlast⟩
    rw [hbody, List.append_nil, Text.leadingBlank_append_trimStart]
  · have hbody : inlineBody b = Text.trim b := if_neg hlast
    rw [hbody]
    exact ⟨Text.leadingBlank b, _, (Text.leading_trim_trailing b).symm, Text.isBlank_of_head?_trim,
      .inr fun c hc => Text.isBlank_of_getLast?_trimEnd hc⟩

theorem hasBlankLine_inlineBody_iff (b : Text) : HasBlankLine (inlineBody b) ↔ InlineKeepsBlankLine b := by
  rw [hasBlankLine_iff_exists]
  constructor
  · rintro ⟨a, p, e, r, heq, hp, he⟩
    obtain ⟨x, y, hb, hhead, hlast⟩ := exists_eq_append_inlineBody b
    rw [heq] at hb hhead hlast
    have ha : Text.isBlankText a = false := by
      cases a with
      | nil => exact absurd (hhead '\n' rfl) (by decide)
      | cons c a => exact Text.isBlankText_cons (hhead c rfl) a
    have hxa : Text.isBlankText (x ++ a) = false := by rw [Text.isBlankText_append, ha, Bool.and_false]
    have hnotBlank : Text.isBlankText b = false := by
      rw [hb, Text.isBlankText_append, Text.isBlankText_append, Text.isBlankText_append, ha]
      simp
    refine ⟨x ++ a, p, e, r ++ y, by simpa using hb, hp, he, hxa, fun hry => ?_⟩
    rw [Text.getLast?_trimEnd hnotBlank]
    refine hlast.resolve_right fun hsolid => ?_
    -- The body would end in white space, in `e` or behind it.
    rw [Text.isBlankText_append, Bool.and_eq_true] at hry
    have hends : ∀ e ∈ lineEndings, e ≠ [] ∧ Text.isBlankText e = true := by decide
    have hblank : Text.isBlankText (e ++ r) = true := by rw [Text.isBlankText_append, (hends e he).2, hry.1, Bool.and_self]
    obtain ⟨d, hd⟩ : ∃ d, (e ++ r).getLast? = some d :=
      ⟨_, List.getLast?_eq_some_getLast (List.append_ne_nil_of_left_ne_nil (hends e he).1 r)⟩
    have hsolid := hsolid d (by rw [← List.cons_append, ← List.append_assoc, List.getLast?_append, hd]; rfl)
    rw [List.all_eq_true.1 hblank d (List.mem_of_getLast? hd)] at hsolid
    cases hsolid
  · rintro ⟨a, p, e, r, rfl, hp, he, ha, hr⟩
    rw [inlineBody, Text.trimStart_append ha]
    split
    · exact ⟨_, p, e, r, rfl, hp, he⟩
    · next hlast =>
      have hr : Text.isBlankText r = false := by
        rw [← Bool.not_eq_true]
        intro hblank
        have hnotBlank : Text.isBlankText (a ++ '\n' :: (p ++ (e ++ r))) = false := by
          rw [Text.isBlankText_append, ha, Bool.false_and]
        rw [Text.getLast?_trimEnd hnotBlank, Text.trim, Text.trimStart_append ha] at hr
        exact hlast (hr hblank)
      have hne : Text.trimEnd r ≠ [] := by simp [Text.trimEnd_eq_nil_iff, hr]
      have := Text.trimEnd_append hne (Text.trimStart a ++ '\n' :: (p ++ e))
      refine ⟨Text.trimStart a, p, e, Text.trimEnd r, by simpa using this, hp, he⟩

/-! ## Formulas -/

theorem hasBlankLine_repairBody_iff (k : MathKind) (b : Text) :
    HasBlankLine (repairBody k b) ↔ KeepsBlankLine k (repairTokens (renameGrid b)) := by
  cases k with
  | inline => exact hasBlankLine_inlineBody_iff _
  | display => exact hasBlankLine_closeBlankLines_iff _

/-- The formulas of the repaired text have the repaired bodies. -/
theorem math_mem_split_normalize_iff {s : Text}
    (h : ∀ b, math .inline b ∈ split (canonicalize s) → Text.isBlankText b = false) {k : MathKind} {b' : Text} :
    math k b' ∈ split (normalize s) ↔ ∃ b, math k b ∈ split (canonicalize s) ∧ repairBody k b = b' := by
  have hsplit : split (normalize s) = (split (canonicalize s)).map (mapBody repairBody) := by
    refine Segment.split_mapMath fun k b hb => isBody_repairBody (Segment.wellFormed_of_mem_split _ _ hb) ?_
    rintro rfl
    exact h b hb
  rw [hsplit, List.mem_map]
  constructor
  · rintro ⟨g, hg, heq⟩
    cases g with
    | prose t => cases heq
    | math k' b =>
      cases heq
      exact ⟨b, hg, rfl⟩
  · rintro ⟨b, hb, rfl⟩
    exact ⟨_, hb, rfl⟩

/-- **Which blank lines are left in formulas.** If no inline formula is white space alone, the formulas of
the repaired text hold no blank line exactly if none of their bodies keeps one. No inline formula holds two
adjacent line feeds, and no displayed one a blank line that a line feed ends. -/
theorem blankLine_split_normalize_iff (s : Text)
    (h : ∀ b, math .inline b ∈ split (canonicalize s) → Text.isBlankText b = false) :
    ((∀ k b, math k b ∈ split (normalize s) → ¬HasBlankLine b) ↔
      ∀ k b, math k b ∈ split (canonicalize s) → ¬KeepsBlankLine k (repairTokens (renameGrid b))) ∧
    (∀ b, math .inline b ∈ split (normalize s) → ¬['\n', '\n'] <:+: b) ∧
    ∀ b, math .display b ∈ split (normalize s) → ¬HasBlankLineTo ['\n'] b := by
  refine ⟨⟨fun hnone k b hb hkeeps => ?_, fun hnone k b' hb' hline => ?_⟩, fun b hb => ?_, fun b' hb' => ?_⟩
  · exact hnone k _ ((math_mem_split_normalize_iff h).2 ⟨b, hb, rfl⟩) ((hasBlankLine_repairBody_iff k b).2 hkeeps)
  · obtain ⟨b, hb, rfl⟩ := (math_mem_split_normalize_iff h).1 hb'
    exact hnone k b hb ((hasBlankLine_repairBody_iff k b).1 hline)
  · have hbody : IsBody .inline b := Segment.wellFormed_of_mem_split _ _ hb
    exact hbody.2.2
  · obtain ⟨b, -, rfl⟩ := (math_mem_split_normalize_iff h).1 hb'
    exact (hasBlankLineTo_closeBlankLines _).1

/-- A displayed formula with a blank line between carriage returns. -/
def carriageReturns : Text := "$$a\r\n\r\nb$$".toList

/-- The repair leaves the blank line of the formula above. -/
theorem blankLine_split_normalize_carriageReturns :
    (∀ b, math .inline b ∈ split (canonicalize carriageReturns) → Text.isBlankText b = false) ∧
      ¬∀ k b, math k b ∈ split (normalize carriageReturns) → ¬HasBlankLine b := by
  have hsplit : split (canonicalize carriageReturns) = [math .display "a\r\n\r\nb".toList] := by cbv
  have hinline : ∀ b, math .inline b ∈ split (canonicalize carriageReturns) → Text.isBlankText b = false := by
    rw [hsplit]
    simp
  refine ⟨hinline, fun hnone => ?_⟩
  have hkeeps := (blankLine_split_normalize_iff carriageReturns hinline).1.1 hnone .display "a\r\n\r\nb".toList
    (hsplit ▸ List.mem_cons_self)
  have hbody : repairTokens (renameGrid "a\r\n\r\nb".toList) =
      ['a', '\r'] ++ '\n' :: ([] ++ '\r' :: '\n' :: ['b']) := by cbv
  rw [hbody] at hkeeps
  refine hkeeps ⟨_, _, _, rfl, rfl, fun m hm hrun => ?_⟩
  -- A run has two line feeds.
  obtain ⟨p, w, rfl, -⟩ := hrun
  have := hm.sublist.count_le '\n'
  simp at this

end Coursebook.Math
