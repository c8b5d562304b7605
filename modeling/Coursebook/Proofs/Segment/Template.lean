/-
Masking as templates. A text around placeholders is a template: pieces of
text, and slots for formulas. Restoring fills the slots and copies the rest
(`Masked.restore_template`), and what it fills in is not looked at again, as
the law holds for spans with placeholders in them too.

Every text is a template, if nothing else is known of it than how many
formulas there are (`exists_template`): a placeholder that names none of them,
or whose closing character is missing, is text. So the formulas have no part
in what becomes of the prose, and texts with the same prose and other formulas
come out as one template, filled with the formulas of each (`mask_exact`).
-/
import Coursebook.Proofs.Segment.Map
import Coursebook.Proofs.Segment.Mask

namespace Coursebook.Segment

/-- A piece of a template: text, or a placeholder with what stands for its index. -/
inductive Piece where
  | text (t : Text)
  | slot (index : Text)
deriving Repr, DecidableEq

/-- The formula that an index names. -/
def named? (spans : List Text) (index : Text) : Option Text := (Text.toNat? index).bind (spans[·]?)

namespace Piece

/-- A piece as it stands in a text. -/
def source : Piece → Text
  | text t => t
  | slot index => maskOpen :: (index ++ [maskClose])

/-- A piece with its formula filled in; a slot that names no formula stays as it is. -/
def fill (spans : List Text) : Piece → Text
  | text t => t
  | slot index => (named? spans index).getD (slot index).source

/-- Whether a piece cannot be taken for anything else. -/
def Clean : Piece → Prop
  | text t => maskOpen ∉ t
  | slot index => maskOpen ∉ index ∧ maskClose ∉ index

theorem slot_append (index s : Text) : (slot index).source ++ s = maskOpen :: (index ++ maskClose :: s) := by
  simp [source]

theorem source_slot_ofNat (k : Nat) : (slot (Text.ofNat k)).source = placeholder k := by
  simp [source, placeholder]

theorem fill_slot_ofNat {spans : List Text} {k : Nat} {span : Text} (h : spans[k]? = some span) :
    (slot (Text.ofNat k)).fill spans = span := by
  simp [fill, named?, Text.toNat?_ofNat, h]

end Piece

open Piece

/-! ## Restoring a template -/

theorem filled?_eq (spans : List Text) (s : Text) :
    filled? spans s = (Text.cut? [maskClose] s).bind fun (index, r) => (named? spans index).map fun span => (span, r) := by
  unfold filled? named?
  cases Text.cut? [maskClose] s with
  | none => rfl
  | some cut =>
    obtain ⟨index, r⟩ := cut
    cases hindex : Text.toNat? index with
    | none => simp [hindex]
    | some k => cases hspan : spans[k]? <;> simp [hindex, hspan]

theorem filled?_slot {index : Text} (h : maskClose ∉ index) (spans : List Text) (s : Text) :
    filled? spans (index ++ maskClose :: s) = (named? spans index).map fun span => (span, s) := by
  rw [filled?_eq, Text.cut?_singleton h]
  rfl

namespace Masked

variable (m : Masked)

theorem restore_opener {s : Text} (h : filled? m.spans s = none) : m.restore (maskOpen :: s) = maskOpen :: m.restore s :=
  Text.replaceMatches_none (by simp [h])

theorem restore_filled {s span r : Text} (h : filled? m.spans s = some (span, r)) :
    m.restore (maskOpen :: s) = span ++ m.restore r :=
  Text.replaceMatches_some (by simp [h]) (length_of_filled? h)

theorem restore_piece {p : Piece} (hp : p.Clean) (s : Text) : m.restore (p.source ++ s) = p.fill m.spans ++ m.restore s := by
  cases p with
  | text t => exact m.restore_append hp s
  | slot index =>
    have hfilled := filled?_slot hp.2 m.spans s
    rw [slot_append]
    cases hnamed : named? m.spans index with
    | some span =>
      rw [hnamed] at hfilled
      simp [m.restore_filled hfilled, fill, hnamed]
    | none =>
      have hne : maskOpen ≠ maskClose := by decide
      have hrest : maskOpen ∉ index ++ [maskClose] := by simp [hp.1, hne]
      rw [hnamed] at hfilled
      rw [m.restore_opener hfilled, ← List.singleton_append (l := s), ← List.append_assoc, m.restore_append hrest]
      simp [fill, hnamed, source]

/-- **A template is filled** in the order of its pieces. -/
theorem restore_template {T : List Piece} (hT : ∀ p ∈ T, p.Clean) :
    m.restore (T.flatMap source) = T.flatMap (fill m.spans) := by
  induction T with
  | nil => exact m.restore_nil
  | cons p T ih =>
    obtain ⟨hp, hT⟩ := List.forall_mem_cons.1 hT
    rw [List.flatMap_cons, m.restore_piece hp, ih hT, List.flatMap_cons]

end Masked

/-! ## Every text is a template -/

/-- Whether an index names a formula is told by their number. -/
theorem isSome_named?_iff {spans : List Text} {index : Text} :
    (named? spans index).isSome ↔ ∃ k ∈ Text.toNat? index, k < spans.length := by
  unfold named?
  cases Text.toNat? index <;> simp

/-- **A text is a template**, and which one is told by the number of formulas. -/
theorem exists_template (n : Nat) (u : Text) : ∃ T : List Piece, T.flatMap source = u ∧
    ∀ m : Masked, m.spans.length = n → m.restore u = T.flatMap (fill m.spans) := by
  induction hu : u.length using Nat.strongRecOn generalizing u with
  | ind _ ih =>
  cases u with
  | nil => exact ⟨[], rfl, fun m _ => m.restore_nil⟩
  | cons c s =>
    -- The first character is text, if it opens no placeholder that names a formula.
    have htext : (∀ m : Masked, m.spans.length = n → m.restore (c :: s) = c :: m.restore s) → ∃ T : List Piece,
        T.flatMap source = c :: s ∧ ∀ m : Masked, m.spans.length = n → m.restore (c :: s) = T.flatMap (fill m.spans) := by
      intro hcopied
      obtain ⟨T, rfl, hT⟩ := ih s.length (by simp [← hu]) s rfl
      exact ⟨text [c] :: T, rfl, fun m hm => by rw [hcopied m hm, hT m hm]; rfl⟩
    by_cases hc : c = maskOpen
    · subst hc
      cases hcut : Text.cut? [maskClose] s with
      | none => exact htext fun m _ => m.restore_opener (by simp [filled?_eq, hcut])
      | some cut =>
        obtain ⟨index, r⟩ := cut
        by_cases hindex : ∃ k ∈ Text.toNat? index, k < n
        · obtain rfl : s = index ++ maskClose :: r := by simpa using Text.eq_of_cut? hcut
          obtain ⟨T, rfl, hT⟩ := ih r.length (by simp [← hu]; omega) r rfl
          refine ⟨slot index :: T, by simp [source], fun m hm => ?_⟩
          obtain ⟨span, hspan⟩ := Option.isSome_iff_exists.1 (isSome_named?_iff.2 (hm ▸ hindex))
          have hfilled := filled?_slot (Text.not_mem_of_cut?_singleton hcut) m.spans (T.flatMap source)
          rw [hspan] at hfilled
          rw [m.restore_filled hfilled, hT m hm]
          simp [fill, hspan]
        · refine htext fun m hm => m.restore_opener ?_
          have hnone : named? m.spans index = none := by
            rw [← Option.not_isSome_iff_eq_none, isSome_named?_iff, hm]
            exact hindex
          simp [filled?_eq, hcut, hnone]
    · exact htext fun m _ => m.restore_cons hc s

/-! ## Texts with the same prose -/

/-- The prose of a text, and the kinds of the formulas between. -/
def skeleton (s : Text) : List Segment := (split s).map (mapBody fun _ _ => [])

theorem maskFrom_map_mapBody (f : MathKind → Text → Text) (n : Nat) (ss : List Segment) :
    maskFrom n (ss.map (mapBody f)) = maskFrom n ss := by
  induction ss generalizing n with
  | nil => rfl
  | cons g ss ih => cases g <;> simp [mapBody, maskFrom, ih]

theorem length_mathSpans (ss : List Segment) : (mathSpans ss).length = ss.countP isMath := by
  rw [mathSpans, List.length_map, List.countP_eq_length_filter]

theorem countP_map_mapBody (f : MathKind → Text → Text) (ss : List Segment) :
    (ss.map (mapBody f)).countP isMath = ss.countP isMath := by
  rw [List.countP_map]
  refine List.countP_congr fun g _ => ?_
  cases g <;> rfl

theorem mapProse_mask {s : Text} {m : Masked} (h : mask? s = some m) (f : Text → Text) :
    mapProse f s = m.restore (f m.text) := by
  rw [mapProse, h]

/-- **Prose that is not changed** leaves the text as it was. -/
theorem mapProse_id (s : Text) : mapProse id s = s := by
  cases hm : mask? s with
  | some m => rw [mapProse_mask hm, id, restore_text hm]
  | none =>
    rw [mapProse, hm]
    refine Eq.trans (congrArg (fun g => (split s).flatMap g) (funext fun g => ?_)) (split_raw s)
    cases g <;> rfl

/-- Texts with the same prose are masked alike. -/
theorem masked_of_skeleton_eq {s s' : Text} {m m' : Masked} (hm : mask? s = some m) (hm' : mask? s' = some m')
    (h : skeleton s = skeleton s') : m.text = m'.text ∧ m.spans.length = m'.spans.length := by
  obtain ⟨-, rfl⟩ := mask?_eq_some_iff.1 hm
  obtain ⟨-, rfl⟩ := mask?_eq_some_iff.1 hm'
  have htext := congrArg (maskFrom 0) h
  have hcount := congrArg (List.countP isMath) h
  rw [skeleton, skeleton, maskFrom_map_mapBody, maskFrom_map_mapBody] at htext
  rw [skeleton, skeleton, countP_map_mapBody, countP_map_mapBody] at hcount
  exact ⟨htext, by simpa only [length_mathSpans] using hcount⟩

/-- **Masking is exact.** There is one span for each formula, and a masked text is restored. Of a template
restoring fills the slots that name a formula, whatever is in the formulas, and copies everything else. So
prose that is not changed leaves its text as it was, and what a change makes of two texts with the same prose
is one template, filled with the formulas of each. -/
theorem mask_exact :
    (∀ s m, mask? s = some m → m.spans.length = (split s).countP isMath ∧ m.restore m.text = s) ∧
      (∀ (m : Masked) (T : List Piece), (∀ p ∈ T, p.Clean) → m.restore (T.flatMap source) = T.flatMap (fill m.spans)) ∧
      (∀ (spans : List Text) (k : Nat), (slot (Text.ofNat k)).source = placeholder k ∧
        (slot (Text.ofNat k)).fill spans = spans[k]?.getD (placeholder k)) ∧
      (∀ s, mapProse id s = s) ∧
      ∀ s s' m m', mask? s = some m → mask? s' = some m' → skeleton s = skeleton s' → ∀ f, ∃ T : List Piece,
        T.flatMap source = f m.text ∧ mapProse f s = T.flatMap (fill m.spans) ∧
          mapProse f s' = T.flatMap (fill m'.spans) := by
  refine ⟨?spans, fun m T => m.restore_template, ?slots, mapProse_id, ?runs⟩
  case spans =>
    intro s m hm
    refine ⟨?_, restore_text hm⟩
    obtain ⟨-, rfl⟩ := mask?_eq_some_iff.1 hm
    exact length_mathSpans (split s)
  case slots =>
    intro spans k
    refine ⟨source_slot_ofNat k, ?_⟩
    rw [fill, named?, Text.toNat?_ofNat, Option.bind_some, source_slot_ofNat]
  case runs =>
    intro s s' m m' hm hm' hskeleton f
    obtain ⟨htext, hlength⟩ := masked_of_skeleton_eq hm hm' hskeleton
    obtain ⟨T, hsource, hfill⟩ := exists_template m.spans.length (f m.text)
    refine ⟨T, hsource, ?_, ?_⟩
    · rw [mapProse_mask hm, hfill m rfl]
    · rw [mapProse_mask hm', ← htext, hfill m' hlength.symm]

/-- Two texts with the same prose, changed by one change; and a template with its formulas swapped, one of
them twice, and a placeholder that names none. -/
theorem mask_exact_swapped :
    let s := "a $x$ b $$y$$".toList
    let s' := "a $u + v$ b $$w$$".toList
    let m : Masked := ⟨"a ".toList ++ placeholder 0 ++ " b ".toList ++ placeholder 1, ["$x$".toList, "$$y$$".toList]⟩
    let m' : Masked := ⟨m.text, ["$u + v$".toList, "$$w$$".toList]⟩
    let twice : Text → Text := fun t => t ++ t
    mask? s = some m ∧ m.spans.length = (split s).countP isMath ∧ m.restore m.text = s ∧ mapProse id s = s ∧
      m.restore (placeholder 1 ++ ", ".toList ++ placeholder 0 ++ placeholder 7 ++ placeholder 0) =
        "$$y$$, $x$".toList ++ placeholder 7 ++ "$x$".toList ∧
      ∃ T : List Piece, T.flatMap source = m.text ++ m.text ∧ mapProse twice s = T.flatMap (fill m.spans) ∧
        mapProse twice s' = T.flatMap (fill m'.spans) := by
  intro s s' m m' twice
  have hm : mask? s = some m := by decide +kernel
  have hm' : mask? s' = some m' := by decide +kernel
  obtain ⟨hspans, htemplate, -, hid, hruns⟩ := mask_exact
  obtain ⟨hcount, hrestore⟩ := hspans s m hm
  refine ⟨hm, hcount, hrestore, hid s, ?_, hruns s s' m m' hm hm' (by decide +kernel) twice⟩
  exact htemplate m [slot ['1'], .text ", ".toList, slot ['0'], slot ['7'], slot ['0']] (by simp [Piece.Clean]; decide)

end Coursebook.Segment
