/-
Repairing formulas. The repairs go over the body of every formula of the
canonical text; the bodies change, and nothing else. Whatever the repairs
find is exchanged for a piece that the reader of a body cannot tell from it
(`TokenPass`), so a repaired body stands between its dollars as the old one
did.

One body is lost: an inline formula of white space alone. Its padding is
all of it, and between its dollars nothing is left; the two dollars are
then the opener of a displayed formula. `split_normalize_iff` says that this
is the only way in which a repair can change what is formula and what is
prose.
-/
import Coursebook.Math.Repair
import Coursebook.Proofs.Segment.Body
import Coursebook.Proofs.Text.Ascii
import Coursebook.Proofs.Text.Trim

namespace Coursebook.Math

open Segment (IsBody FirstUnescaped Inert NoMarks Place closes prose math mapBody split)

/-! ## Exchanging tokens -/

/-- A token and what may stand in its place: both are inert and hold something beside white space,
and the new one puts no line ending into a text. -/
structure Exchange (old new : Text) : Prop where
  inert_old : Inert old
  inert_new : Inert new
  solid_old : Text.isBlankText old = false
  solid_new : Text.isBlankText new = false
  noLineEnd : '\n' ∉ new

/-- A recogniser of such tokens. -/
def TokenPass (match? : Text → Option (Text × Text)) : Prop :=
  ∀ s out r, match? s = some (out, r) → ∃ m, s = m ++ r ∧ Exchange m out

/-- What a pass of repairs keeps of a body. -/
structure Keeps (b b' : Text) : Prop where
  closes : ∀ k p, closes k p b' = closes k p b
  blank : Text.isBlankText b' = Text.isBlankText b
  noBlankLine : ¬['\n', '\n'] <:+: b → ¬['\n', '\n'] <:+: b'

theorem Keeps.trans {a b c : Text} (h : Keeps a b) (h' : Keeps b c) : Keeps a c where
  closes k p := (h'.closes k p).trans (h.closes k p)
  blank := h'.blank.trans h.blank
  noBlankLine := h'.noBlankLine ∘ h.noBlankLine

theorem blankLine_cons_iff {c : Char} {s : Text} :
    ['\n', '\n'] <:+: c :: s ↔ c = '\n' ∧ s.head? = some '\n' ∨ ['\n', '\n'] <:+: s := by
  have hhead : ['\n'] <+: s ↔ s.head? = some '\n' := by
    cases s <;> simp [List.cons_prefix_cons, eq_comm]
  rw [List.infix_cons_iff, List.cons_prefix_cons, hhead, eq_comm]

theorem blankLine_append_iff {w : Text} (hw : '\n' ∉ w) (s : Text) :
    ['\n', '\n'] <:+: w ++ s ↔ ['\n', '\n'] <:+: s := by
  induction w with
  | nil => rfl
  | cons c w ih =>
    simp only [List.mem_cons, not_or] at hw
    rw [List.cons_append, blankLine_cons_iff, ih hw.2]
    simp [Ne.symm hw.1]

/-- What stands behind an inert match is shorter than the text. -/
theorem shorter_of_inert {match? : Text → Option (Text × Text)}
    (h : ∀ s out r, match? s = some (out, r) → ∃ m, s = m ++ r ∧ Inert m) {c : Char} {s out r : Text}
    (hm : match? (c :: s) = some (out, r)) : r.length ≤ s.length := by
  obtain ⟨m, hs, hold⟩ := h _ _ _ hm
  exact Text.length_of_match hs hold.length_pos

/-- What is exchanged for inert pieces is closed by the same dollars. -/
theorem closes_replaceMatches {match? : Text → Option (Text × Text)}
    (h : ∀ s out r, match? s = some (out, r) → ∃ m, s = m ++ r ∧ Inert m ∧ Inert out) (k : MathKind) (p : Place)
    (s : Text) : closes k p (Text.replaceMatches match? s) = closes k p s := by
  refine Text.replaceMatches_induct (Q := fun s s' => ∀ p, closes k p s' = closes k p s) ?nil ?keep ?exchange
    (shorter_of_inert fun s out r hm => let ⟨m, hs, hold, _⟩ := h s out r hm; ⟨m, hs, hold⟩) s p
  case nil => exact fun p => rfl
  case keep =>
    intro c s _ ih p
    cases p <;> simp only [closes, ih]
  case exchange =>
    intro c s out r hm ih p
    obtain ⟨m, hs, hold, hnew⟩ := h _ _ _ hm
    rw [hs, hold.closes_append, hnew.closes_append, ih]

namespace TokenPass

variable {match? : Text → Option (Text × Text)}

theorem shorter (h : TokenPass match?) {c : Char} {s out r : Text} (hm : match? (c :: s) = some (out, r)) :
    r.length ≤ s.length :=
  shorter_of_inert (fun s out r hm => let ⟨m, hs, he⟩ := h s out r hm; ⟨m, hs, he.inert_old⟩) hm

theorem blank (h : TokenPass match?) (s : Text) :
    Text.isBlankText (Text.replaceMatches match? s) = Text.isBlankText s := by
  refine Text.replaceMatches_induct (Q := fun s s' => Text.isBlankText s' = Text.isBlankText s) ?nil ?keep ?exchange
    h.shorter s
  case nil => rfl
  case keep =>
    intro c s _ ih
    simp only [Text.isBlankText, List.all_cons] at ih ⊢
    rw [ih]
  case exchange =>
    intro c s out r hm _
    obtain ⟨m, hs, he⟩ := h _ _ _ hm
    rw [hs, Text.isBlankText_append, Text.isBlankText_append, he.solid_old, he.solid_new, Bool.false_and, Bool.false_and]

/-- No blank line arises: a line ending at the head of the new text is one at the head of the old. -/
theorem noBlankLine (h : TokenPass match?) {s : Text} (hs : ¬['\n', '\n'] <:+: s) :
    ¬['\n', '\n'] <:+: Text.replaceMatches match? s := by
  refine fun hi => hs ((Text.replaceMatches_induct (Q := fun s s' => (s'.head? = some '\n' → s.head? = some '\n') ∧
    (['\n', '\n'] <:+: s' → ['\n', '\n'] <:+: s)) ?nil ?keep ?exchange h.shorter s).2 hi)
  case nil => exact ⟨id, id⟩
  case keep =>
    intro c s _ ⟨ihhead, ih⟩
    refine ⟨id, fun hi => ?_⟩
    rw [blankLine_cons_iff] at hi ⊢
    exact hi.imp (And.imp_right ihhead) ih
  case exchange =>
    intro c s out r hm ⟨_, ih⟩
    obtain ⟨m, hs, he⟩ := h _ _ _ hm
    constructor
    · intro hhead
      cases out with
      | nil => exact absurd he.inert_new.length_pos (by simp)
      | cons d out =>
        obtain rfl := Option.some.inj hhead
        exact absurd List.mem_cons_self he.noLineEnd
    · intro hi
      rw [hs]
      exact (ih ((blankLine_append_iff he.noLineEnd _).1 hi)).trans (List.suffix_append m r).isInfix

theorem keeps (h : TokenPass match?) (s : Text) : Keeps s (Text.replaceMatches match? s) where
  closes k p := closes_replaceMatches
    (fun s out r hm => let ⟨m, hs, he⟩ := h s out r hm; ⟨m, hs, he.inert_old, he.inert_new⟩) k p s
  blank := h.blank s
  noBlankLine := h.noBlankLine

end TokenPass

/-! ## The tokens -/

theorem exchange_notEqualWord {old : Text} (h : Inert old) (hs : Text.isBlankText old = false) :
    Exchange old notEqualWord where
  inert_old := h
  inert_new := .escape (by decide)
  solid_old := hs
  solid_new := by decide
  noLineEnd := by decide

theorem eq_of_negatedEquals? {s out r : Text} (h : negatedEquals? s = some (out, r)) : ∃ w v,
    s = '\\' :: ("not".toList ++ (w ++ '=' :: v)) ++ r ∧ Text.isBlankText w = true ∧ Text.isBlankText v = true ∧
      out = notEqualWord := by
  obtain ⟨t, ht, h⟩ := Option.bind_eq_some_iff.1 h
  split at h
  · next u hu =>
    obtain ⟨rfl, rfl⟩ := Prod.mk.inj (Option.some.inj h)
    refine ⟨Text.leadingBlank t, Text.leadingBlank u, ?_, Text.isBlankText_leadingBlank t,
      Text.isBlankText_leadingBlank u, rfl⟩
    have ht' : t = Text.leadingBlank t ++ '=' :: u := by rw [← hu, Text.leadingBlank_append_trimStart]
    conv => lhs; rw [Text.after?_eq_some.1 ht, ht']
    simp [Text.leadingBlank_append_trimStart]
  · simp at h

theorem tokenPass_negatedEquals : TokenPass negatedEquals? := by
  intro s out r h
  obtain ⟨w, v, hs, hw, hv, rfl⟩ := eq_of_negatedEquals? h
  have hword : NoMarks "not".toList := by decide
  have hsign : NoMarks ('=' :: v) := List.forall_mem_cons.2 ⟨by decide, NoMarks.of_blank hv⟩
  exact ⟨_, hs, exchange_notEqualWord (.escape (hword.append ((NoMarks.of_blank hw).append hsign)))
    (Text.isBlankText_cons (by decide) _)⟩

theorem afterLineEnd?_eq_some_iff {s r : Text} :
    Text.afterLineEnd? s = some r ↔ ∃ e, (e = ['\n'] ∨ e = ['\r', '\n']) ∧ s = e ++ r := by
  constructor
  · intro h
    unfold Text.afterLineEnd? at h
    split at h
    · obtain rfl := Option.some.inj h
      exact ⟨['\n'], .inl rfl, rfl⟩
    · obtain rfl := Option.some.inj h
      exact ⟨['\r', '\n'], .inr rfl, rfl⟩
    · simp at h
  · rintro ⟨e, rfl | rfl, rfl⟩ <;> rfl

theorem eq_of_splitNotEqual? {s out r : Text} (h : splitNotEqual? s = some (out, r)) : ∃ w e v,
    s = '\\' :: ("neq".toList ++ (w ++ (e ++ v))) ++ r ∧ w.all Text.isSpaceOrTab = true ∧
      (e = ['\n'] ∨ e = ['\r', '\n']) ∧ Text.isBlankText v = true ∧ out = notEqualWord := by
  obtain ⟨t, ht, h⟩ := Option.bind_eq_some_iff.1 h
  obtain ⟨u, hu, h⟩ := Option.bind_eq_some_iff.1 h
  obtain ⟨rfl, rfl⟩ := Prod.mk.inj (Option.some.inj h)
  obtain ⟨e, he, hue⟩ := afterLineEnd?_eq_some_iff.1 hu
  refine ⟨t.takeWhile Text.isSpaceOrTab, e, Text.leadingBlank u, ?_, List.all_takeWhile, he,
    Text.isBlankText_leadingBlank u, rfl⟩
  have ht' : t = t.takeWhile Text.isSpaceOrTab ++ (e ++ u) := by rw [← hue, List.takeWhile_append_dropWhile]
  conv => lhs; rw [Text.after?_eq_some.1 ht, ht']
  simp [Text.leadingBlank_append_trimStart]

theorem tokenPass_splitNotEqual : TokenPass splitNotEqual? := by
  intro s out r h
  obtain ⟨w, e, v, hs, hw, he, hv, rfl⟩ := eq_of_splitNotEqual? h
  have hword : NoMarks "neq".toList := by decide
  have hspaces : NoMarks w := .of_forall (List.all_eq_true.1 hw) (by decide) (by decide)
  have hline : NoMarks e := by rcases he with rfl | rfl <;> decide
  exact ⟨_, hs, exchange_notEqualWord (.escape (hword.append (hspaces.append (hline.append (.of_blank hv)))))
    (Text.isBlankText_cons (by decide) _)⟩

theorem eq_of_notEqualSign? {s out r : Text} (h : notEqualSign? s = some (out, r)) : ∃ v,
    s = '≠' :: v ++ r ∧ Text.isBlankText v = true ∧ out = notEqualWord := by
  unfold notEqualSign? at h
  split at h
  · next u =>
    obtain ⟨rfl, rfl⟩ := Prod.mk.inj (Option.some.inj h)
    exact ⟨Text.leadingBlank u, by rw [List.cons_append, Text.leadingBlank_append_trimStart],
      Text.isBlankText_leadingBlank u, rfl⟩
  · simp at h

theorem tokenPass_notEqualSign : TokenPass notEqualSign? := by
  intro s out r h
  obtain ⟨v, hs, hv, rfl⟩ := eq_of_notEqualSign? h
  exact ⟨_, hs, exchange_notEqualWord (.mild (by decide) (by decide) (.of_blank hv)) (Text.isBlankText_cons (by decide) _)⟩

/-- A control word and another one in its place. -/
theorem exchange_controlWord {v w : Text} (hv : v ≠ [] ∧ NoMarks v) (hw : w ≠ [] ∧ NoMarks w ∧ '\n' ∉ w) :
    Exchange ('\\' :: v) ('\\' :: w) := by
  obtain ⟨c, v, rfl⟩ := List.exists_cons_of_ne_nil hv.1
  obtain ⟨d, w, rfl⟩ := List.exists_cons_of_ne_nil hw.1
  refine ⟨.escape hv.2, .escape hw.2.1, Text.isBlankText_cons (by decide) _, Text.isBlankText_cons (by decide) _, ?_⟩
  simpa using hw.2.2

theorem tokenPass_controlWord : TokenPass controlWord? := by
  intro s out r h
  unfold controlWord? at h
  split at h
  · next t =>
    have hall : ∀ c ∈ t.takeWhile Text.isAsciiLetter, Text.isAsciiLetter c = true :=
      List.all_eq_true.1 List.all_takeWhile
    have hmarks : NoMarks (t.takeWhile Text.isAsciiLetter) := .of_forall hall (by decide) (by decide)
    have hline : '\n' ∉ t.takeWhile Text.isAsciiLetter := fun hm => absurd (hall _ hm) (by decide)
    have ht : '\\' :: t = '\\' :: t.takeWhile Text.isAsciiLetter ++ t.dropWhile Text.isAsciiLetter := by
      rw [List.cons_append, List.takeWhile_append_dropWhile]
    refine ⟨'\\' :: t.takeWhile Text.isAsciiLetter, ?_⟩
    generalize t.takeWhile Text.isAsciiLetter = word at h ht hmarks hline
    generalize t.dropWhile Text.isAsciiLetter = rest at h ht
    cases word with
    | nil => simp at h
    | cons c word =>
      cases word with
      | nil =>
        simp only at h
        split at h
        · next hc =>
          obtain ⟨rfl, rfl⟩ := Prod.mk.inj (Option.some.inj h)
          have hset : numberSets.all (fun c => NoMarks ("mathbb\x7b".toList ++ [c, '}']) ∧
            '\n' ∉ "mathbb\x7b".toList ++ [c, '}']) = true := by decide
          have hname := of_decide_eq_true (List.all_eq_true.1 hset c hc)
          exact ⟨ht, exchange_controlWord ⟨by simp, hmarks⟩ ⟨by simp, hname⟩⟩
        · obtain ⟨rfl, rfl⟩ := Prod.mk.inj (Option.some.inj h)
          exact ⟨ht, exchange_controlWord ⟨by simp, hmarks⟩ ⟨by simp, hmarks, hline⟩⟩
      | cons d word =>
        obtain ⟨rfl, rfl⟩ := Prod.mk.inj (Option.some.inj h)
        exact ⟨ht, exchange_controlWord ⟨by simp, hmarks⟩ ⟨by simp, hmarks, hline⟩⟩
  · simp at h

/-- Exchanging the tag of one environment for that of another. -/
theorem tokenPass_replace {v w : Text} (hv : v ≠ [] ∧ NoMarks v) (hw : w ≠ [] ∧ NoMarks w ∧ '\n' ∉ w) :
    TokenPass fun s => (Text.after? ('\\' :: v) s).map fun r => ('\\' :: w, r) := by
  intro s out r h
  obtain ⟨r', hr, h⟩ := Option.map_eq_some_iff.1 h
  obtain ⟨rfl, rfl⟩ := Prod.mk.inj h
  exact ⟨_, Text.after?_eq_some.1 hr, exchange_controlWord hv hw⟩

theorem keeps_renameGrid (b : Text) : Keeps b (renameGrid b) :=
  ((tokenPass_replace (v := (Environment.openTag gridName).tail) (w := (Environment.openTag arrayName).tail)
      (by decide) (by decide)).keeps b).trans
    ((tokenPass_replace (v := (Environment.closeTag gridName).tail) (w := (Environment.closeTag arrayName).tail)
      (by decide) (by decide)).keeps _)

/-- **The repairs of tokens keep a body a body.** -/
theorem keeps_repairTokens (b : Text) : Keeps b (repairTokens b) :=
  (((tokenPass_negatedEquals.keeps b).trans (tokenPass_splitNotEqual.keeps _)).trans
    (tokenPass_notEqualSign.keeps _)).trans (tokenPass_controlWord.keeps _)

/-! ## Blank lines and padding -/

theorem closes_closeBlankLines (k : MathKind) (p : Place) (b : Text) : closes k p (closeBlankLines b) = closes k p b := by
  refine closes_replaceMatches (fun s out r h => ?_) k p b
  unfold blankLine? at h
  split at h
  · next t =>
    split at h
    · next u hu =>
      obtain ⟨rfl, rfl⟩ := Prod.mk.inj (Option.some.inj h)
      have hspaces : NoMarks (t.takeWhile Text.isSpaceOrTab) :=
        .of_forall (List.all_eq_true.1 List.all_takeWhile) (by decide) (by decide)
      have hline : NoMarks ('\n' :: Text.leadingBlank u) :=
        List.forall_mem_cons.2 ⟨by decide, Segment.noMarks_leadingBlank u⟩
      refine ⟨'\n' :: (t.takeWhile Text.isSpaceOrTab ++ '\n' :: Text.leadingBlank u), ?_,
        .mild (by decide) (by decide) (hspaces.append hline), .mild (by decide) (by decide) (by decide)⟩
      have ht : t = t.takeWhile Text.isSpaceOrTab ++ '\n' :: u := by rw [← hu, List.takeWhile_append_dropWhile]
      conv => lhs; rw [ht]
      simp [Text.leadingBlank_append_trimStart]
    · simp at h
  · simp at h

theorem closes_trimStart (k : MathKind) (b : Text) : closes k .plain (Text.trimStart b) = closes k .plain b := by
  conv => rhs; rw [← Text.leadingBlank_append_trimStart b]
  exact (Segment.closes_noMarks_append k (Segment.noMarks_leadingBlank b) _).symm

/-- What is left of an inline body without its padding. -/
theorem isBody_inlineBody {b : Text} (h : FirstUnescaped ['$'] b) (hline : ¬['\n', '\n'] <:+: b)
    (hs : Text.isBlankText b = false) : IsBody .inline (inlineBody b) := by
  have hstart : FirstUnescaped ['$'] (Text.trimStart b) := by
    have := Segment.closes_iff .inline
    simp only [MathKind.delimiter] at this
    rw [← this] at h ⊢
    rwa [closes_trimStart]
  have htrim : Text.trimEnd (Text.trimStart b) ≠ [] := fun he => by
    rw [Text.trim_eq_nil_iff.1 he] at hs
    exact Bool.noConfusion hs
  have hpre := Text.trimEnd_isPrefix (Text.trimStart b)
  have hinf := (Text.trimStart_suffix b).isInfix
  rw [inlineBody]
  split
  · refine ⟨fun he => htrim ?_, hstart, fun hi => hline (hi.trans hinf)⟩
    rw [he]
    rfl
  · next hlast =>
    exact ⟨htrim, hstart.of_prefix hpre hlast, fun hi => hline ((hi.trans hpre.isInfix).trans hinf)⟩

/-! ## Repaired bodies -/

/-- A repaired body is a body, unless it was an inline body of white space. -/
theorem isBody_repairBody {k : MathKind} {b : Text} (h : IsBody k b) (hs : k = .inline → Text.isBlankText b = false) :
    IsBody k (repairBody k b) := by
  have hkeeps := (keeps_renameGrid b).trans (keeps_repairTokens _)
  cases k with
  | display =>
    have hb : FirstUnescaped ['$', '$'] b := h
    show FirstUnescaped ['$', '$'] (closeBlankLines (repairTokens (renameGrid b)))
    rw [← (Segment.closes_display_iff _).1] at hb ⊢
    rw [closes_closeBlankLines, hkeeps.closes, hb]
  | inline =>
    obtain ⟨-, hf, hline⟩ := h
    refine isBody_inlineBody ?_ (hkeeps.noBlankLine hline) (hkeeps.blank.trans (hs rfl))
    rw [← Segment.closes_inline_iff] at hf ⊢
    rw [hkeeps.closes, hf]

theorem inlineBody_blank {b : Text} (h : Text.isBlankText b = true) : inlineBody b = [] := by
  have : Text.trimEnd (Text.trimStart b) = [] := Text.trim_eq_nil_iff.2 h
  simp [inlineBody, this]

/-- Nothing is left of an inline body of white space. -/
theorem repairBody_blank {b : Text} (h : Text.isBlankText b = true) : repairBody .inline b = [] :=
  inlineBody_blank (((keeps_renameGrid b).trans (keeps_repairTokens _)).blank.trans h)

/-- **Repairing changes the bodies of the formulas and nothing else**, exactly if no inline formula is
white space alone. -/
theorem split_normalize_iff (s : Text) :
    split (normalize s) = (split (canonicalize s)).map (mapBody repairBody) ↔
      ∀ b, math .inline b ∈ split (canonicalize s) → Text.isBlankText b = false := by
  constructor
  · intro h b hb
    have hmem : math .inline (repairBody .inline b) ∈ split (normalize s) := by
      rw [h]
      exact List.mem_map_of_mem hb
    have hbody : IsBody .inline (repairBody .inline b) := Segment.wellFormed_of_mem_split _ _ hmem
    cases hs : Text.isBlankText b with
    | false => rfl
    | true => exact absurd (repairBody_blank hs) hbody.1
  · intro h
    refine Segment.split_mapMath fun k b hb => ?_
    refine isBody_repairBody (Segment.wellFormed_of_mem_split _ _ hb) ?_
    rintro rfl
    exact h b hb

-- The two dollars that are left around nothing meet the next one, and all later pairs are off by one.
example : split (normalize "$ $ et $x$".toList) =
    [prose ['$'], math .inline " et ".toList, prose ['x', '$']] := by cbv

end Coursebook.Math
