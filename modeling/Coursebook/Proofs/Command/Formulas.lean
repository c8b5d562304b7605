/-
Formulas under the lowering of macros. Lowered prose is read with formulas of
the text, in their order (`reads_lowerProse`), and then they are put back.

`filter_split_normalize` says when they are all found again, each in its place:
if and only if none was dropped and the lowered prose is undisturbed. Neither
goes without saying. A formula is dropped with the options of a list, with the
text behind them, and with the length of a line break; an empty call that goes
can leave its first backslash in front of a formula; and a blank line between
two dollars can go, and then they pair up.
-/
import Coursebook.Proofs.Command.Call
import Coursebook.Proofs.Command.LineBreak
import Coursebook.Proofs.Command.Restored

namespace Coursebook.Command

open Segment (maskOpen maskClose placeholder mask? maskFrom mathSpans split isMath Masked)
open Text (endsEscaped isBlankText)

/-! ## What may stand in the prose -/

/-- No braces are empty, or else no word stands behind two backslashes. An empty call that goes could
leave the first one of them in front of a formula. -/
def CleanCalls (t : Text) : Prop :=
  ¬['{', '}'] <:+: t ∨ ∀ c, Text.isAsciiLetter c = true → ¬['\\', '\\', c] <:+: t

/-- No bracket opens options behind the tag of a list. -/
def NoOptions (t : Text) : Prop :=
  ∀ tag ∈ listTags, ∀ a w b, t = a ++ (tag ++ (w ++ '[' :: b)) → isBlankText w = false

/-- No bracket opens a length behind a line break. -/
def NoLengths (t : Text) : Prop := ∀ a b, t = a ++ '\\' :: '\\' :: '[' :: b → endsEscaped a = true

theorem NoLengths.of_append {a t : Text} (h : NoLengths (a ++ t)) (ha : endsEscaped a = false) : NoLengths t := by
  intro a' b heq
  rw [← Text.endsEscaped_append ha]
  exact h (a ++ a') b (by rw [heq, List.append_assoc])

theorem NoOptions.of_append {a t : Text} (h : NoOptions (a ++ t)) : NoOptions t := fun tag htag a' w b heq =>
  h tag htag (a ++ a') w b (by rw [heq, List.append_assoc])

theorem Reads.spacing_mem {p q : Place} {t : Text} {ms : List Mark} (h : Reads p t ms q) (hms : .spacing ∈ ms) :
    p.paired = true ∧ t.head? = some '[' ∨ ¬NoLengths (p.front ++ t) := by
  induction h with
  | nil => simp at hms
  | @char p q c s ms hopen hclose h ih =>
    rcases List.mem_append.1 hms with hms | hms
    · obtain ⟨rfl, hp⟩ := Place.spacing_mem_marks_iff.1 hms
      exact .inl ⟨hp, rfl⟩
    · right
      rcases ih hms with ⟨hnext, hs⟩ | hs
      · rw [Place.paired_next, Bool.and_eq_true, decide_eq_true_eq] at hnext
        obtain ⟨rfl, hp⟩ := hnext
        obtain ⟨s, rfl⟩ := List.head?_eq_some_iff.1 hs
        exact fun hno => by simpa using hno [] s (by simp [Place.front, hp])
      · obtain ⟨a, ha, -, heq⟩ := p.exists_front_cons c s
        exact fun hno => hs (.of_append (heq ▸ hno) ha)
  | @formula p q n s ms h ih =>
    rcases ih (by simpa using hms) with ⟨hfree, -⟩ | hs
    · exact Bool.noConfusion hfree
    · exact .inr fun hno => hs (NoLengths.of_append (by rwa [List.append_assoc]) (p.endsEscaped_placeholder n))

/-- What is left in front of options: the rest of a tag and white space. -/
def Tag.Leads : Tag → Text → Prop
  | idle, _ => False
  | reading u, t => ∃ r w b, u ++ r ∈ listTags ∧ isBlankText w = true ∧ t = r ++ (w ++ '[' :: b)
  | behind, t => ∃ w b, isBlankText w = true ∧ t = w ++ '[' :: b

theorem Tag.Leads.of_next {g : Tag} {c : Char} {s : Text} (h : (g.next c).Leads s) :
    g.Leads (c :: s) ∨ ¬NoOptions (c :: s) := by
  unfold Tag.next at h
  split at h
  · next hc =>
    -- A tag starts here.
    subst hc
    obtain ⟨r, w, b, htag, hw, rfl⟩ := h
    exact .inr fun hno => absurd hw (by simp [hno _ htag [] w b rfl])
  · cases g with
    | idle => exact h.elim
    | reading u =>
      simp only at h
      split at h
      · next htag =>
        obtain ⟨w, b, hw, rfl⟩ := h
        exact .inl ⟨[c], w, b, htag, hw, rfl⟩
      · split at h
        · obtain ⟨r, w, b, htag, hw, rfl⟩ := h
          exact .inl ⟨c :: r, w, b, by simpa using htag, hw, rfl⟩
        · exact h.elim
    | behind =>
      simp only at h
      split at h
      · next hc =>
        obtain ⟨w, b, hw, rfl⟩ := h
        exact .inl ⟨c :: w, b, by simpa [isBlankText, hc] using hw, rfl⟩
      · exact h.elim

theorem Reads.option_mem {p q : Place} {t : Text} {ms : List Mark} (h : Reads p t ms q) (hms : .option ∈ ms) :
    p.tag.Leads t ∨ ¬NoOptions t := by
  induction h with
  | nil => simp at hms
  | @char p q c s ms hopen hclose h ih =>
    rcases List.mem_append.1 hms with hms | hms
    · obtain ⟨rfl, -, hp⟩ := Place.option_mem_marks_iff.1 hms
      rw [hp]
      exact .inl ⟨[], s, rfl, rfl⟩
    · rcases ih hms with hs | hs
      · exact hs.of_next
      · exact .inr fun hno => hs (NoOptions.of_append (a := [c]) hno)
  | @formula p q n s ms h ih =>
    rcases ih (by simpa using hms) with hfree | hs
    · exact hfree.elim
    · exact .inr fun hno => hs hno.of_append

theorem Reads.hollow_mem {p q : Place} {t : Text} {ms : List Mark} (h : Reads p t ms q) (hms : .hollow ∈ ms) :
    p.opened = true ∧ t.head? = some '}' ∨ ['{', '}'] <:+: t := by
  induction h with
  | nil => simp at hms
  | @char p q c s ms hopen hclose h ih =>
    rcases List.mem_append.1 hms with hms | hms
    · obtain ⟨rfl, hp⟩ := Place.hollow_mem_marks_iff.1 hms
      exact .inl ⟨hp, rfl⟩
    · right
      rcases ih hms with ⟨hnext, hs⟩ | hs
      · obtain rfl : c = '{' := by simpa using hnext
        obtain ⟨s, rfl⟩ := List.head?_eq_some_iff.1 hs
        exact ⟨[], s, rfl⟩
      · exact hs.trans (List.suffix_cons c s).isInfix
  | @formula p q n s ms h ih =>
    rcases ih (by simpa using hms) with ⟨hfree, -⟩ | hs
    · exact Bool.noConfusion hfree
    · exact .inr (hs.trans (List.suffix_append _ s).isInfix)

/-- The backslashes in front of a place, two of them at most. -/
def Run.text : Run → Text
  | none => []
  | one => ['\\']
  | even | odd => ['\\', '\\']

theorem Place.text_next_suffix (p : Place) (c : Char) : (p.next c).run.text <:+ p.run.text ++ [c] := by
  by_cases hc : c = '\\'
  · cases hrun : p.run <;> simp [next, hc, hrun, Run.next, Run.text]
  · simp [next, hc, Run.text]

theorem Reads.doubled_mem {p q : Place} {t : Text} {ms : List Mark} (h : Reads p t ms q) (hms : .doubled ∈ ms) :
    ∃ c, Text.isAsciiLetter c = true ∧ ['\\', '\\', c] <:+: p.run.text ++ t := by
  induction h with
  | nil => simp at hms
  | @char p q c s ms hopen hclose h ih =>
    rcases List.mem_append.1 hms with hms | hms
    · obtain ⟨hc, hp⟩ := Place.doubled_mem_marks_iff.1 hms
      have htext : p.run.text = ['\\', '\\'] := by
        cases hrun : p.run <;> simp_all [Place.doubled, Run.text]
      exact ⟨c, hc, [], s, by rw [htext]; rfl⟩
    · obtain ⟨d, hd, hs⟩ := ih hms
      obtain ⟨a, ha⟩ := p.text_next_suffix c
      refine ⟨d, hd, hs.trans ⟨a, [], ?_⟩⟩
      rw [List.append_nil, ← List.append_assoc, ha, List.append_assoc]
      rfl
  | @formula p q n s ms h ih =>
    obtain ⟨d, hd, hs⟩ := ih (by simpa using hms)
    exact ⟨d, hd, hs.trans ((List.suffix_append _ s).trans (List.suffix_append _ _)).isInfix⟩

/-- The reading of clean calls. -/
theorem Reads.clean {q : Place} {t : Text} {ms : List Mark} (h : Reads .free t ms q) (ht : CleanCalls t) : Clean ms := by
  refine ht.imp (fun ht hms => ?_) fun ht hms => ?_
  · exact (h.hollow_mem hms).elim (fun hfree => Bool.noConfusion hfree.1) ht
  · obtain ⟨c, hc, hmem⟩ := h.doubled_mem hms
    exact ht c hc hmem

/-! ## Lowering -/

/-- The passes up to the line breaks. -/
def lowerMacros (s : Text) : Text := lowerEmphasis (lowerHeadings (lowerSolutions (ListBlock.renderAll s)))

theorem lowerProse_eq (s : Text) : lowerProse s = closeBlankLines (lowerLineBreaks (lowerMacros s)) := rfl

/-- **Lowered macros are read** with the marks that they had, but those that the options of lists held. -/
theorem reads_lowerMacros {t : Text} {p q : Place} {ms : List Mark} (h : Reads p t ms q) :
    ∃ ms' q', Reads p (lowerMacros t) ms' q' ∧ (indices ms').Sublist (indices ms) ∧
      (Clean ms → (solid ms').Sublist (solid ms) ∧ (.option ∉ ms → kept false ms' = kept false ms)) := by
  have hmacros : Lowers false (ListBlock.renderAll t) (lowerMacros t) :=
    ((outcome_lowerSolutions _).lowers.trans (outcome_lowerHeadings _).lowers).trans (outcome_lowerEmphasis _).lowers
  obtain ⟨ms₁, q₁, h₁, hlists⟩ := (ListBlock.outcome_renderAll t).lowers.thinner h
  obtain ⟨ms₂, q₂, h₂, hcalls⟩ := hmacros.thinner h₁
  refine ⟨ms₂, q₂, h₂, hcalls.indices.trans hlists.indices, fun hclean => ?_⟩
  have hclean₁ := hlists.clean hclean
  refine ⟨(hcalls.solid hclean₁).trans (hlists.solid hclean), fun ho => (hcalls.kept hclean₁ (by simp)).trans ?_⟩
  -- What is kept while lists are laid out is all that is kept later on.
  have hkept : ∀ ms, kept false (kept true ms) = kept false ms := fun ms => by
    rw [kept, kept, kept, List.filter_filter]
    refine List.filter_congr fun m _ => ?_
    cases m <;> rfl
  rw [← hkept ms₁, hlists.kept hclean fun _ => ho, hkept]

/-- **Lowered prose is read** with the dollars and formulas that it had, but those that an optional
argument held. -/
theorem reads_lowerProse {t : Text} {q : Place} {ms : List Mark} (h : Reads .free t ms q) :
    ∃ ms' q', Reads .free (lowerProse t) ms' q' ∧ (indices ms').Sublist (indices ms) ∧
      (Clean ms → (solid ms').Sublist (solid ms) ∧ (.option ∉ ms → .spacing ∉ ms → solid ms' = solid ms)) := by
  obtain ⟨ms₁, q₁, h₁, hindices, hmacros⟩ := reads_lowerMacros h
  obtain ⟨ms₂, q₂, h₂, hsub, hsame⟩ := reads_lowerLineBreaks h₁ rfl fun hfree => Bool.noConfusion hfree
  rw [lowerProse_eq]
  refine ⟨ms₂, q₂, (respaces_closeBlankLines _).reads h₂, (indices_sublist hsub).trans hindices, fun hclean => ?_⟩
  obtain ⟨hsolid, hkept⟩ := hmacros hclean
  refine ⟨hsub.trans hsolid, fun ho hs => ?_⟩
  have hkept := hkept ho
  have hspacing : Mark.spacing.isKept false = true := rfl
  have hs₁ : .spacing ∉ ms₁ := by rwa [← mem_kept_iff hspacing, hkept, mem_kept_iff hspacing]
  rw [hsame hs₁, ← solid_kept false ms₁, hkept, solid_kept]

/-- **What lowering does to the formulas of a text.** They are the formulas of the lowered text, each in the place
of its placeholder, if and only if no placeholder is dropped and the lowered prose is undisturbed; as long as it is
undisturbed, no formula is altered and none lost if and only if no placeholder is dropped. Both conditions hold of
a text without optional arguments and empty calls whose dollars cannot pair up. -/
theorem filter_split_normalize {s : Text} (hopen : maskOpen ∉ s) (hclose : maskClose ∉ s) :
    ∃ m, Segment.mask? s = some m ∧
      ((split (normalize s)).filter isMath = (split s).filter isMath ∧
          maskFrom 0 (split (normalize s)) = lowerProse m.text ↔
        Complete ((split s).filter isMath).length (lowerProse m.text) ∧ Undisturbed m (lowerProse m.text)) ∧
      (Undisturbed m (lowerProse m.text) →
        ((split (normalize s)).filter isMath = (split s).filter isMath ↔
          Complete ((split s).filter isMath).length (lowerProse m.text))) ∧
      (CleanCalls m.text → NoOptions m.text → NoLengths m.text →
        LoneDollar m.text ∨ DollarsApart (lowerProse m.text) →
          (split (normalize s)).filter isMath = (split s).filter isMath) := by
  obtain ⟨m, hm⟩ : ∃ m : Masked, m = ⟨maskFrom 0 (split s), mathSpans (split s)⟩ := ⟨_, rfl⟩
  have hmask := Segment.mask?_eq_some_iff.2 ⟨⟨hopen, hclose⟩, hm⟩
  have hnormalize : normalize s = m.restore (lowerProse m.text) := by rw [normalize, Segment.mapProse, hmask]
  have hspans : m.spans = ((split s).filter isMath).map Segment.raw := by rw [hm, mathSpans]
  have hformulas : ∀ g ∈ (split s).filter isMath, ∃ k b, g = .math k b ∧ Segment.IsBody k b := by
    intro g hg
    rw [List.mem_filter] at hg
    cases g with
    | prose t => simp [isMath] at hg
    | math k b => exact ⟨k, b, rfl, Segment.wellFormed_of_mem_split s _ hg.1⟩
  obtain ⟨ms, q, hread, hindices, hfree⟩ := exists_reads_maskFrom hopen hclose (p := .free) rfl 0
  have htext : m.text = maskFrom 0 (split s) := by rw [hm]
  rw [← htext] at hread
  obtain ⟨ms', q', hread', hsub, htracked⟩ := reads_lowerProse hread
  rw [hindices] at hsub
  rw [hnormalize]
  have hkept := hread'.filter_split_restore_iff hspans hformulas hsub
  refine ⟨m, hmask, hread'.places_iff hspans hformulas hsub, hkept, fun hcalls hoptions hlengths hdollar => ?_⟩
  obtain ⟨hsolid, hsame⟩ := htracked (hread.clean hcalls)
  have ho : .option ∉ ms := fun hmem => (hread.option_mem hmem).elim id fun h => h hoptions
  have hs : .spacing ∉ ms := fun hmem =>
    (hread.spacing_mem hmem).elim (fun hfree => Bool.noConfusion hfree.1) fun h => h hlengths
  have hall : indices ms' = List.range' 0 ((split s).filter isMath).length := by
    rw [← indices_solid, hsame ho hs, indices_solid, hindices]
  have hfree' : ∀ n, Mark.formula n true ∉ ms' := fun n hn =>
    hfree n (List.mem_filter.1 (hsolid.subset (List.mem_filter.2 ⟨hn, rfl⟩))).1
  have hapart : DollarsApart (lowerProse m.text) := by
    refine hdollar.elim (fun hlone => ?_) id
    have hlone : Lone (solid ms') := (hread.lone_iff.2 hlone).sublist (hsolid.trans List.filter_sublist)
    exact (hread'.lone_iff.1 hlone.of_solid).dollarsApart
  exact (hkept ⟨hapart.opensNone m, hread'.forall_not_escaped_iff.1 hfree'⟩).2 ((hread'.complete_iff hsub).2 hall)

/-- A heading, a list, emphasis and a line break around formulas. -/
theorem filter_split_normalize_worksheet :
    let s : Text := "\\section{Soit $x$}\n\\begin{itemize}\\item $a_1$ ou \\emph{ $b$}\\end{itemize}\\\\ puis $$c$$".toList
    (split (normalize s)).filter isMath = (split s).filter isMath ∧ ((split s).filter isMath).length = 4 := by
  have hplain : ∀ t : Text, '$' ∉ t → '[' ∉ t → LoneDollar t ∧ NoOptions t ∧ NoLengths t := by
    refine fun t hd hb => ⟨?_, ?_, ?_⟩
    · rintro a b rfl
      simp at hd
    · rintro tag - a w b rfl
      simp at hb
    · rintro a b rfl
      simp at hb
  obtain ⟨m, hm, -, -, hkept⟩ := filter_split_normalize
    (s := "\\section{Soit $x$}\n\\begin{itemize}\\item $a_1$ ou \\emph{ $b$}\\end{itemize}\\\\ puis $$c$$".toList)
    (by decide +kernel) (by decide +kernel)
  obtain ⟨-, rfl⟩ := Segment.mask?_eq_some_iff.1 hm
  obtain ⟨hdollar, hoptions, hlengths⟩ := hplain (maskFrom 0 (split
    "\\section{Soit $x$}\n\\begin{itemize}\\item $a_1$ ou \\emph{ $b$}\\end{itemize}\\\\ puis $$c$$".toList))
    (by decide +kernel) (by decide +kernel)
  exact ⟨hkept (.inl (by decide +kernel)) hoptions hlengths (.inl hdollar), by decide +kernel⟩

/-- What stands in front of the items goes with the options, and a formula in it goes along. -/
example :
    let s : Text := "\\begin{itemize}[label=-] Soit $x$ un reel.\\item a\\end{itemize}".toList
    (split s).filter isMath = [.math .inline ['x']] ∧ (split (normalize s)).filter isMath = [] := by
  decide +kernel

/-- Dollars that pair up can hold by accident what the formula held. -/
example :
    let s : Text := "\\section\x7b$\n\nx$ x$\x7d".toList
    (split s).filter isMath = [.math .inline [' ', 'x']] ∧ (split (normalize s)).filter isMath = (split s).filter isMath ∧
      maskFrom 0 (split (normalize s)) ≠ lowerProse (maskFrom 0 (split s)) := by
  decide +kernel

end Coursebook.Command
