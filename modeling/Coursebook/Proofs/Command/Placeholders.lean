/-
Placeholders under the lowering of macros. What is read with whole
placeholders is a template whose slots are the formulas that were noted down
(`Reads.exists_template`), and lowering notes down no others than were there,
in their order. So none is cut, doubled or moved past another one, and nothing
of a placeholder is left in the restored text (`lowerProse_placeholders`).
-/
import Coursebook.Proofs.Command.Formulas
import Coursebook.Proofs.Segment.Template

namespace Coursebook.Command

open Segment (maskOpen maskClose placeholder mask? maskFrom mathSpans split isMath Masked Piece)

/-- The indices of the slots of a template, as they are written. -/
def slots (T : List Piece) : List Text :=
  T.filterMap fun
    | .text _ => none
    | .slot index => some index

/-- A template whose placeholders are whole and name the formulas `ks`, in this order. -/
structure Intact (T : List Piece) (ks : List Nat) : Prop where
  text : ∀ t, Piece.text t ∈ T → maskOpen ∉ t ∧ maskClose ∉ t
  slots : slots T = ks.map Text.ofNat

namespace Intact

variable {T : List Piece} {ks : List Nat}

theorem nil : Intact [] [] := ⟨by simp, rfl⟩

theorem cons_text (h : Intact T ks) {t : Text} (hopen : maskOpen ∉ t) (hclose : maskClose ∉ t) :
    Intact (.text t :: T) ks where
  text u hu := by
    rcases List.mem_cons.1 hu with heq | hu
    · obtain rfl := Piece.text.inj heq
      exact ⟨hopen, hclose⟩
    · exact h.text u hu
  slots := h.slots

theorem cons_slot (h : Intact T ks) (k : Nat) : Intact (.slot (Text.ofNat k) :: T) (k :: ks) where
  text u hu := h.text u (by simpa using hu)
  slots := congrArg (Text.ofNat k :: ·) h.slots

/-- A slot of such a template is one of the numbers. -/
theorem exists_of_slot_mem (h : Intact T ks) {index : Text} (hindex : Piece.slot index ∈ T) :
    ∃ k ∈ ks, index = Text.ofNat k := by
  have hmem : index ∈ Command.slots T := List.mem_filterMap.2 ⟨_, hindex, rfl⟩
  rw [h.slots, List.mem_map] at hmem
  obtain ⟨k, hk, rfl⟩ := hmem
  exact ⟨k, hk, rfl⟩

theorem clean (h : Intact T ks) : ∀ p ∈ T, p.Clean := by
  rintro (t | index) hp
  · exact (h.text t hp).1
  · obtain ⟨k, -, rfl⟩ := h.exists_of_slot_mem hp
    have hdigits : ∀ {c}, Text.isAsciiDigit c = false → c ∉ Text.ofNat k := fun hc hmem =>
      absurd (Text.isAsciiDigit_of_mem_ofNat hmem) (by simp [hc])
    exact ⟨hdigits (by decide), hdigits (by decide)⟩

/-- What is in no text and in no formula is not in the filled template. -/
theorem not_mem_fill (h : Intact T ks) {spans : List Text} (hks : ∀ k ∈ ks, k < spans.length) {c : Char}
    (hc : c = maskOpen ∨ c = maskClose) (hspans : ∀ span ∈ spans, c ∉ span) : c ∉ T.flatMap (Piece.fill spans) := by
  intro hmem
  obtain ⟨p, hp, hmem⟩ := List.mem_flatMap.1 hmem
  cases p with
  | text t =>
    obtain ⟨hopen, hclose⟩ := h.text t hp
    rcases hc with rfl | rfl
    · exact hopen hmem
    · exact hclose hmem
  | slot index =>
    obtain ⟨k, hk, rfl⟩ := h.exists_of_slot_mem hp
    have hlt := hks k hk
    have hspan : spans[k]? = some spans[k] := List.getElem?_eq_getElem hlt
    rw [Segment.Piece.fill_slot_ofNat hspan] at hmem
    exact hspans _ (List.getElem_mem _) hmem

end Intact

/-- **What is read is a template** of the formulas that are noted down. -/
theorem Reads.exists_template {p q : Place} {t : Text} {ms : List Mark} (h : Reads p t ms q) :
    ∃ T, T.flatMap Piece.source = t ∧ Intact T (indices ms) := by
  induction h with
  | nil => exact ⟨[], rfl, .nil⟩
  | @char p q c s ms hopen hclose _ ih =>
    obtain ⟨T, rfl, hT⟩ := ih
    rw [indices_append, p.indices_marks, List.nil_append]
    exact ⟨.text [c] :: T, rfl, hT.cons_text (by simpa using hopen.symm) (by simpa using hclose.symm)⟩
  | formula p n _ ih =>
    obtain ⟨T, rfl, hT⟩ := ih
    refine ⟨.slot (Text.ofNat n) :: T, ?_, hT.cons_slot n⟩
    rw [List.flatMap_cons, Piece.source_slot_ofNat]

theorem not_mem_of_mem_mathSpans {s span : Text} {c : Char} (hc : c ∉ s) (hspan : span ∈ mathSpans (split s)) :
    c ∉ span := by
  obtain ⟨g, hg, rfl⟩ := List.mem_map.1 hspan
  exact fun hmem => hc (Segment.subset_of_mem_split (List.mem_filter.1 hg).1 hmem)

/-- **No placeholder leaks, and none is doubled.** The placeholders of lowered prose are whole, and they are
some of those that were there, in their order. So what is restored are some of the formulas, each once and in
their order, and no placeholder character is left. -/
theorem lowerProse_placeholders {s : Text} (hopen : maskOpen ∉ s) (hclose : maskClose ∉ s) :
    ∃ m, mask? s = some m ∧ (∃ T ks, T.flatMap Piece.source = lowerProse m.text ∧ Intact T ks ∧
      ks.Sublist (List.range m.spans.length) ∧ normalize s = T.flatMap (Piece.fill m.spans) ∧
        (ks.filterMap (m.spans[·]?)).Sublist m.spans) ∧ maskOpen ∉ normalize s ∧ maskClose ∉ normalize s := by
  obtain ⟨m, hm⟩ : ∃ m : Masked, m = ⟨maskFrom 0 (split s), mathSpans (split s)⟩ := ⟨_, rfl⟩
  have hmask := Segment.mask?_eq_some_iff.2 ⟨⟨hopen, hclose⟩, hm⟩
  obtain ⟨ms, q, hread, hindices, -⟩ := exists_reads_maskFrom hopen hclose (p := .free) rfl 0
  obtain ⟨ms', q', hread', hsub, -⟩ := reads_lowerProse hread
  obtain ⟨T, hsource, hT⟩ := hread'.exists_template
  have hlength : m.spans.length = ((split s).filter isMath).length := by rw [hm, mathSpans, List.length_map]
  have hrange : (indices ms').Sublist (List.range m.spans.length) := by
    rw [hlength, List.range_eq_range', ← hindices]
    exact hsub
  have htext : lowerProse m.text = T.flatMap Piece.source := by rw [hsource, hm]
  have hnormalize : normalize s = T.flatMap (Piece.fill m.spans) := by
    rw [normalize, Segment.mapProse_mask hmask, htext, m.restore_template hT.clean]
  have hvalid : ∀ k ∈ indices ms', k < m.spans.length := fun k hk => List.mem_range.1 (hrange.subset hk)
  have hspans : ∀ c ∉ s, ∀ span ∈ m.spans, c ∉ span := fun c hc span hspan =>
    not_mem_of_mem_mathSpans hc (by simpa [hm] using hspan)
  refine ⟨m, hmask, ⟨T, indices ms', htext.symm, hT, hrange, hnormalize, ?_⟩, ?_, ?_⟩
  · have hall := filterMap_range' m.spans
    rw [← List.range_eq_range'] at hall
    conv => rhs; rw [← hall]
    exact hrange.filterMap _
  · rw [hnormalize]
    exact hT.not_mem_fill hvalid (.inl rfl) (hspans _ hopen)
  · rw [hnormalize]
    exact hT.not_mem_fill hvalid (.inr rfl) (hspans _ hclose)

/-- Options and a length are dropped with their formulas, and a call that does not end is left. -/
theorem lowerProse_placeholders_dropped :
    let s := "\\begin\x7bitemize\x7d[label=$a$]\\item $b$ \\emph\x7b$c$\\end\x7bitemize\x7d\\\\[$d$] $$e$$".toList
    (∃ m, mask? s = some m ∧ (∃ T ks, T.flatMap Piece.source = lowerProse m.text ∧ Intact T ks ∧
      ks.Sublist (List.range m.spans.length) ∧ normalize s = T.flatMap (Piece.fill m.spans) ∧
        (ks.filterMap (m.spans[·]?)).Sublist m.spans) ∧ maskOpen ∉ normalize s ∧ maskClose ∉ normalize s) ∧
      normalize s = "\n\n- $b$ \\emph\x7b$c$\n\n$$e$$".toList :=
  ⟨lowerProse_placeholders (by decide +kernel) (by decide +kernel), by decide +kernel⟩

end Coursebook.Command
