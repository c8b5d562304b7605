/-
Repaired bodies. A pass of the repairs puts in a control word: nothing that is
garbled starts in it, and nothing that is garbled in front of it reaches
beyond its backslash. So a garbled token of the new text stood in the old
one, in a place where the pass did not read it (`exists_of_readsIn_replaceMatches`).

Hence each pass leaves none of its own tokens and makes none of another's,
whatever the order of the passes, and a body that was repaired is not changed
by repairing it again (`repairTokens_repairTokens`).
-/
import Coursebook.Proofs.Math.BlankLine
import Coursebook.Proofs.Math.Garbled

namespace Coursebook.Math

open Corruption (startsWithLetter ne_backslash_of_letter)
open Segment (NoMarks)

/-- The recognisers of the four passes; the last one reads what the pass over control words exchanges. -/
def repairs : List (Text → Option (Text × Text)) := [negatedEquals?, splitNotEqual?, notEqualSign?, shorthand?]

theorem forall_mem_repairs {P : (Text → Option (Text × Text)) → Prop} :
    (∀ f ∈ repairs, P f) ↔ P negatedEquals? ∧ P splitNotEqual? ∧ P notEqualSign? ∧ P shorthand? := by
  simp [repairs]

theorem repairTokens_eq_foldl (b : Text) : repairTokens b = repairs.foldl (fun s f => Text.replaceMatches f s) b :=
  replaceMatches_controlWord _

theorem hasGarbled_iff {b : Text} : HasGarbled b ↔ ∃ f ∈ repairs, ReadsIn f b := by
  simp only [HasGarbled, garbled_iff, ReadsIn, repairs, List.mem_cons, List.not_mem_nil, or_false, exists_eq_or_imp,
    exists_eq_left, and_or_left, exists_or]

theorem lightens_of_mem : ∀ f ∈ repairs, Lightens f :=
  forall_mem_repairs.2 ⟨lightens_negatedEquals, lightens_splitNotEqual, lightens_notEqualSign, lightens_shorthand⟩

theorem read_nil : ∀ f ∈ repairs, f [] = none := forall_mem_repairs.2 ⟨rfl, rfl, rfl, rfl⟩

/-- Every garbled token starts with a backslash or is the sign. -/
theorem head_of_read : ∀ f ∈ repairs, ∀ c s, (f (c :: s)).isSome → c = '\\' ∨ c = '≠' := by
  refine forall_mem_repairs.2 ⟨?negated, ?split, ?sign, ?shorthand⟩ <;> intro c s h
  case negated =>
    obtain ⟨w, r, -, hs⟩ := isSome_negatedEquals?_iff.1 h
    exact .inl (List.cons.inj hs).1
  case split =>
    obtain ⟨w, e, r, -, -, hs⟩ := isSome_splitNotEqual?_iff.1 h
    exact .inl (List.cons.inj hs).1
  case sign =>
    obtain ⟨r, hs⟩ := isSome_notEqualSign?_iff.1 h
    exact .inr (List.cons.inj hs).1
  case shorthand =>
    obtain ⟨d, -, r, -, hs⟩ := isSome_shorthand?_iff.1 h
    exact .inl (List.cons.inj hs).1

/-! ## What a pass puts in -/

/-- Whether a text starts with something else than white space, if with anything. -/
def StartsSolid (s : Text) : Prop := ∀ c ∈ s.head?, Text.isBlank c = false

namespace StartsSolid

variable {s : Text}

theorem dropWhile (h : StartsSolid s) : s.dropWhile Text.isSpaceOrTab = s := by
  cases s with
  | nil => rfl
  | cons c s =>
    refine List.dropWhile_cons_of_neg fun hc => ?_
    exact absurd (isBlank_of_isSpaceOrTab hc) (by simp [h c rfl])

theorem afterLineEnd? (h : StartsSolid s) : Text.afterLineEnd? s = none := by
  unfold Text.afterLineEnd?
  split
  · exact absurd (h '\n' rfl) (by decide)
  · exact absurd (h '\r' rfl) (by decide)
  · rfl

end StartsSolid

/-- What a repair puts in, and what follows it: the word for "not equal", with no white space behind
its own space, or the blackboard letter of a number set. -/
inductive Put : Text → Text → Prop where
  | notEqual {r : Text} (hr : StartsSolid r) : Put notEqualWord r
  | numberSet {c : Char} (hc : c ∈ numberSets) (r : Text) : Put ("\\mathbb\x7b".toList ++ [c, '}']) r

theorem put_of_read : ∀ f ∈ repairs, ∀ s out r, f s = some (out, r) → Put out r := by
  have htrim : ∀ u, Put notEqualWord (Text.trimStart u) := fun u => .notEqual Text.isBlank_of_head?_trimStart
  refine forall_mem_repairs.2 ⟨?negated, ?split, ?sign, ?shorthand⟩ <;> intro s out r h
  case negated =>
    obtain ⟨t, -, h⟩ := Option.bind_eq_some_iff.1 h
    split at h <;> cases h
    exact htrim _
  case split =>
    obtain ⟨t, -, h⟩ := Option.bind_eq_some_iff.1 h
    obtain ⟨u, -, h⟩ := Option.bind_eq_some_iff.1 h
    cases h
    exact htrim u
  case sign =>
    unfold notEqualSign? at h
    split at h <;> cases h
    exact htrim _
  case shorthand =>
    obtain ⟨c, hc, -, -, rfl⟩ := eq_of_shorthand? h
    exact .numberSet hc r

namespace Put

variable {out r : Text}

/-- A control word is put in: a backslash, and neither another one nor the sign behind it. -/
theorem eq_cons (h : Put out r) : ∃ w, out = '\\' :: w ∧ '\\' ∉ w ∧ '≠' ∉ w := by
  cases h with
  | notEqual => exact ⟨_, rfl, by decide, by decide⟩
  | @numberSet c hc =>
    have hset : numberSets.all (fun c => '\\' ∉ "mathbb\x7b".toList ++ [c, '}'] ∧
        '≠' ∉ "mathbb\x7b".toList ++ [c, '}']) = true := by decide
    exact ⟨_, rfl, of_decide_eq_true (List.all_eq_true.1 hset c hc)⟩

theorem congr {r' : Text} (h : Put out r) (hr : StartsSolid r → StartsSolid r') : Put out r' := by
  cases h with
  | notEqual h => exact .notEqual (hr h)
  | numberSet hc => exact .numberSet hc r'

/-- The word itself is not garbled. -/
theorem read_eq_none (h : Put out r) : ∀ f ∈ repairs, f (out ++ r) = none := by
  refine forall_mem_repairs.2 ⟨?negated, ?split, ?sign, ?shorthand⟩
  case split =>
    cases h with
    | numberSet => rfl
    | notEqual hr =>
      -- Behind the space of the word stands neither another one nor the end of the line.
      have hskip : (' ' :: r).dropWhile Text.isSpaceOrTab = r := by
        rw [List.dropWhile_cons_of_pos (by decide), hr.dropWhile]
      show (Text.afterLineEnd? ((' ' :: r).dropWhile Text.isSpaceOrTab)).bind _ = none
      rw [hskip, hr.afterLineEnd?]
      rfl
  all_goals cases h <;> rfl

/-- Nothing garbled starts in what is put in. -/
theorem read_suffix {f : Text → Option (Text × Text)} (h : Put out r) (hf : f ∈ repairs) {u : Text} (hu : u <:+ out)
    (hne : u ≠ []) : f (u ++ r) = none := by
  obtain ⟨w, rfl, hbackslash, hsign⟩ := h.eq_cons
  rcases List.suffix_cons_iff.1 hu with rfl | hu
  · exact h.read_eq_none f hf
  · obtain ⟨c, u, rfl⟩ := List.exists_cons_of_ne_nil hne
    have hc : c ∈ w := hu.subset List.mem_cons_self
    rw [← Option.not_isSome_iff_eq_none]
    intro hread
    rcases head_of_read f hf _ _ hread with rfl | rfl
    · exact hbackslash hc
    · exact hsign hc

end Put

/-! ## What a pass keeps -/

section

variable {f : Text → Option (Text × Text)} (hf : f ∈ repairs)

include hf

/-- A stretch of the new text without a backslash stood in the old one. -/
theorem eq_append_of_replaceMatches {v s t' : Text} (hv : '\\' ∉ v) (h : Text.replaceMatches f s = v ++ t') :
    ∃ t, s = v ++ t ∧ t' = Text.replaceMatches f t := by
  induction v generalizing s with
  | nil => exact ⟨s, rfl, h.symm⟩
  | cons d v ih =>
    obtain ⟨hd, hv'⟩ := not_or.1 (mt List.mem_cons.2 hv)
    cases s with
    | nil => simp [Text.replaceMatches] at h
    | cons c s =>
      cases hread : f (c :: s) with
      | none =>
        rw [Text.replaceMatches_none hread] at h
        obtain ⟨rfl, hrest⟩ := List.cons.inj h
        obtain ⟨t, rfl, ht⟩ := ih hv' hrest
        exact ⟨t, rfl, ht⟩
      | some found =>
        obtain ⟨out, r⟩ := found
        obtain ⟨w, rfl, -⟩ := (put_of_read f hf _ _ _ hread).eq_cons
        rw [Text.replaceMatches_some hread ((lightens_of_mem f hf).shorter hread)] at h
        exact absurd (List.cons.inj h).1 hd

theorem StartsSolid.replaceMatches {s : Text} (h : StartsSolid s) : StartsSolid (Text.replaceMatches f s) := by
  intro c hc
  obtain ⟨t', ht'⟩ := List.head?_eq_some_iff.1 hc
  by_cases hbackslash : c = '\\'
  · subst hbackslash
    rfl
  · obtain ⟨t, rfl, -⟩ := eq_append_of_replaceMatches hf (v := [c]) (by simpa using Ne.symm hbackslash) ht'
    exact h c rfl

theorem startsWithLetter_of_replaceMatches {s : Text} (h : startsWithLetter (Text.replaceMatches f s) = false) :
    startsWithLetter s = false := by
  cases s with
  | nil => rfl
  | cons c s =>
    cases hc : Text.isAsciiLetter c with
    | false => simpa [startsWithLetter] using hc
    | true =>
      have hread : f (c :: s) = none := by
        rw [← Option.not_isSome_iff_eq_none]
        intro hread
        rcases head_of_read f hf c s hread with rfl | rfl <;> exact absurd hc (by decide)
      rw [Text.replaceMatches_none hread] at h
      simp [startsWithLetter, hc] at h

/-- **What is garbled behind a pass was so in front of it**, if the pass kept the first character. -/
theorem isSome_of_replaceMatches (c : Char) (s : Text) :
    ∀ g ∈ repairs, (g (c :: Text.replaceMatches f s)).isSome → (g (c :: s)).isSome := by
  refine forall_mem_repairs.2 ⟨?negated, ?split, ?sign, ?shorthand⟩ <;> intro h
  case negated =>
    obtain ⟨w, r, hw, hs⟩ := isSome_negatedEquals?_iff.1 h
    change c :: _ = '\\' :: ("not".toList ++ (w ++ '=' :: r)) at hs
    obtain ⟨rfl, hrest⟩ := List.cons.inj hs
    have hmarks : NoMarks ("not".toList ++ (w ++ ['='])) :=
      NoMarks.append (by decide) ((NoMarks.of_blank hw).append (by decide))
    have hkept : Text.replaceMatches f s = "not".toList ++ (w ++ ['=']) ++ r := by simpa using hrest
    obtain ⟨t, rfl, -⟩ := eq_append_of_replaceMatches hf (fun hm => (hmarks _ hm).1 rfl) hkept
    exact isSome_negatedEquals?_iff.2 ⟨w, t, hw, by simp⟩
  case split =>
    obtain ⟨w, e, r, hw, he, hs⟩ := isSome_splitNotEqual?_iff.1 h
    change c :: _ = '\\' :: ("neq".toList ++ (w ++ (e ++ r))) at hs
    obtain ⟨rfl, hrest⟩ := List.cons.inj hs
    have hspaces : NoMarks w := .of_forall (List.all_eq_true.1 hw) (by decide) (by decide)
    have hline : NoMarks e := by rcases he with rfl | rfl <;> decide
    have hmarks : NoMarks ("neq".toList ++ (w ++ e)) := NoMarks.append (by decide) (hspaces.append hline)
    have hkept : Text.replaceMatches f s = "neq".toList ++ (w ++ e) ++ r := by simpa using hrest
    obtain ⟨t, rfl, -⟩ := eq_append_of_replaceMatches hf (fun hm => (hmarks _ hm).1 rfl) hkept
    exact isSome_splitNotEqual?_iff.2 ⟨w, e, t, hw, he, by simp⟩
  case sign =>
    obtain ⟨r, hs⟩ := isSome_notEqualSign?_iff.1 h
    obtain ⟨rfl, -⟩ := List.cons.inj hs
    exact isSome_notEqualSign?_iff.2 ⟨s, rfl⟩
  case shorthand =>
    obtain ⟨d, hd, r, hr, hs⟩ := isSome_shorthand?_iff.1 h
    obtain ⟨rfl, hrest⟩ := List.cons.inj hs
    have hbackslash : '\\' ∉ [d] := by
      simpa using Ne.symm (ne_backslash_of_letter (isAsciiLetter_of_mem_numberSets d hd))
    obtain ⟨t, rfl, rfl⟩ := eq_append_of_replaceMatches hf hbackslash hrest
    exact isSome_shorthand?_iff.2 ⟨d, hd, t, startsWithLetter_of_replaceMatches hf hr, rfl⟩

/-- **A pass makes no garbled token**, and leaves none of those that it reads. -/
theorem exists_of_readsIn_replaceMatches {g : Text → Option (Text × Text)} (hg : g ∈ repairs) (s : Text) :
    ReadsIn g (Text.replaceMatches f s) → ∃ t, t <:+ s ∧ (g t).isSome ∧ f t = none := by
  refine Text.replaceMatches_induct (Q := fun s s' => ReadsIn g s' → ∃ t, t <:+ s ∧ (g t).isSome ∧ f t = none)
    ?nil ?keep ?exchange (lightens_of_mem f hf).shorter s
  case nil =>
    rintro ⟨t, ht, hread⟩
    obtain rfl := List.suffix_nil.1 ht
    exact ⟨[], List.suffix_rfl, hread, read_nil f hf⟩
  case keep =>
    rintro c s hnone ih ⟨t, ht, hread⟩
    rcases List.suffix_cons_iff.1 ht with rfl | ht
    · exact ⟨c :: s, List.suffix_rfl, isSome_of_replaceMatches hf c s g hg hread, hnone⟩
    · obtain ⟨u, hu, hreads⟩ := ih ⟨t, ht, hread⟩
      exact ⟨u, hu.trans (List.suffix_cons c s), hreads⟩
  case exchange =>
    rintro c s out r hexchange ih ⟨t, ht, hread⟩
    obtain ⟨m, hs, -⟩ := lightens_of_mem f hf _ _ _ hexchange
    have hput := (put_of_read f hf _ _ _ hexchange).congr fun h => h.replaceMatches hf
    have hbehind : t <:+ Text.replaceMatches f r := by
      obtain ⟨p, hp⟩ := ht
      rcases List.append_eq_append_iff.1 hp with ⟨u, hu, rfl⟩ | ⟨p', -, hp'⟩
      · by_cases hne : u = []
        · rw [hne]
          exact List.suffix_rfl
        · rw [hput.read_suffix hg ⟨p, hu.symm⟩ hne] at hread
          cases hread
      · exact ⟨p', hp'.symm⟩
    obtain ⟨u, hu, hreads⟩ := ih ⟨t, hbehind, hread⟩
    exact ⟨u, hu.trans ⟨m, hs.symm⟩, hreads⟩

end

/-- What is garbled behind passes of repairs, in whatever order, was so in front of them, and is read by none of
them. -/
theorem readsIn_foldl {g : Text → Option (Text × Text)} (hg : g ∈ repairs)
    {fs : List (Text → Option (Text × Text))} (hfs : ∀ f ∈ fs, f ∈ repairs) {b : Text}
    (h : ReadsIn g (fs.foldl (fun s f => Text.replaceMatches f s) b)) :
    ReadsIn g b ∧ g ∉ fs := by
  induction fs generalizing b with
  | nil => exact ⟨h, List.not_mem_nil⟩
  | cons f fs ih =>
    obtain ⟨hf, hfs⟩ := List.forall_mem_cons.1 hfs
    obtain ⟨hreads, hmem⟩ := ih hfs h
    obtain ⟨t, ht, hread, hnone⟩ := exists_of_readsIn_replaceMatches hf hg b hreads
    refine ⟨⟨t, ht, hread⟩, fun hgmem => ?_⟩
    rcases List.mem_cons.1 hgmem with rfl | hgmem
    · simp [hnone] at hread
    · exact hmem hgmem

/-- **A repaired body holds nothing garbled.** -/
theorem not_hasGarbled_repairTokens (b : Text) : ¬HasGarbled (repairTokens b) := by
  rw [hasGarbled_iff, repairTokens_eq_foldl]
  rintro ⟨g, hg, hreads⟩
  exact (readsIn_foldl hg (fun _ hf => hf) hreads).2 hg

/-- **Repairing a body again changes nothing.** -/
theorem repairTokens_repairTokens (b : Text) : repairTokens (repairTokens b) = repairTokens b :=
  (repairTokens_eq_self_iff _).2 (not_hasGarbled_repairTokens b)

/-- The word that is put in stands between the negation and the equals sign. -/
example : repairTokens "\\not≠ =".toList = "\\not\\neq =".toList := by cbv

end Coursebook.Math
