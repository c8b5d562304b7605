/-
After all entries have repaired a text, none of them finds anything in it
(`not_damaged_repairAll`), though one repair may write what another reads.

Every repair but the first writes a backslash in front of what it exchanges
(`Mends`): a word without backslashes that is read in the repaired text was
there before, and it ends where it ended. The first repair writes nothing and
may join the halves of a word, so the others have to come behind it; a bare
fraction keeps its guard, which is a letter or a backslash.
-/
import Coursebook.Integrity.Sanitize
import Coursebook.Proofs.Integrity.Damage

namespace Coursebook.Corruption

variable {e f : Corruption} {first : Char} {words : List Text} {whole : Bool} {head : Text}

theorem damaged_append_iff {before : Option Char} {v s : Text} : e.Damaged before (v ++ s) ↔
    (∃ a c t, v = a ++ c :: t ∧ e.starts (lastOf before a) (c :: (t ++ s)) = true) ∨ e.Damaged (lastOf before v) s := by
  induction v generalizing before with
  | nil => simp
  | cons d v ih =>
    rw [List.cons_append, Damaged, ih, lastOf_cons, ← or_assoc]
    refine or_congr_left ?_
    constructor
    · rintro (hd | ⟨a, c, t, rfl, hs⟩)
      · exact ⟨[], d, v, rfl, hd⟩
      · exact ⟨d :: a, c, t, rfl, by rwa [lastOf_cons]⟩
    · rintro ⟨a, c, t, he, hs⟩
      cases a with
      | nil =>
        obtain ⟨rfl, rfl⟩ := List.cons.inj he
        exact .inl hs
      | cons b a =>
        obtain ⟨rfl, rfl⟩ := List.cons.inj he
        exact .inr ⟨a, c, t, rfl, by rwa [lastOf_cons] at hs⟩

theorem damaged_iff {before : Option Char} {s : Text} :
    e.Damaged before s ↔ ∃ a c t, s = a ++ c :: t ∧ e.starts (lastOf before a) (c :: t) = true := by
  have h : e.Damaged before (s ++ []) ↔ _ := damaged_append_iff
  simpa [Damaged] using h

/-! ## One repair -/

/-- What a repair of one kind may not do if it is to bring back no damage of another: make what is
damaged by changing what follows it, write damage, or take a guard away. -/
structure Leaves (f : Corruption) (head : Text) (e : Corruption) : Prop where
  back : ∀ {before c s}, f.starts before (c :: s) = false →
    (e.read? (c :: f.rewrite head (some c) s)).isSome = true → (e.read? (c :: s)).isSome = true
  quiet : ∀ {before s}, e.Damaged before (head ++ s) → e.Damaged (lastOf before head) s
  guards : ∀ {before before' c s}, f.starts before (c :: s) = true → (e.read? s).isSome = true →
    (lastOf before' head).any e.guard = false → e.guard c = false

/-- Damage in a repaired text was there, and the repair did not see it. -/
theorem Leaves.of_rewrite (h : Leaves f head e) {s : Text} : ∀ {before before' : Option Char},
    ((e.read? s).isSome = true → before'.any e.guard = false → before.any e.guard = false) →
    e.Damaged before' (f.rewrite head before s) →
    ∃ a c t, s = a ++ c :: t ∧ e.starts (lastOf before a) (c :: t) = true ∧
      f.starts (lastOf before a) (c :: t) = false := by
  induction s with
  | nil => exact fun _ hd => absurd hd (by simp [rewrite, Damaged])
  | cons c s ih =>
    intro before before' hguard hd
    cases hs : f.starts before (c :: s) with
    | true =>
      rw [rewrite_starts hs] at hd
      obtain ⟨a, d, t, rfl, he, hf⟩ := ih (h.guards hs) (h.quiet hd)
      exact ⟨c :: a, d, t, rfl, by rwa [lastOf_cons], by rwa [lastOf_cons]⟩
    | false =>
      rw [rewrite_keeps hs, Damaged] at hd
      rcases hd with hd | hd
      · rw [starts, Bool.and_eq_true, Bool.not_eq_true'] at hd
        have hread := h.back hs hd.1
        refine ⟨[], c, s, rfl, ?_, hs⟩
        rw [starts, lastOf_nil, hread, hguard hread hd.2]
        rfl
      · obtain ⟨a, d, t, rfl, he, hf⟩ := ih (fun _ => id) hd
        exact ⟨c :: a, d, t, rfl, by rwa [lastOf_cons], by rwa [lastOf_cons]⟩

/-- A repair brings back nothing that is not there. -/
theorem Leaves.keeps (h : Leaves f head e) (hl : f.Local head) {s : Text} (hs : ¬e.Damaged none s) :
    ¬e.Damaged none (f.repair s) := by
  rw [repair_eq_rewrite hl]
  intro hd
  obtain ⟨a, c, t, rfl, he, -⟩ := h.of_rewrite (fun _ => id) hd
  exact hs (damaged_iff.2 ⟨a, c, t, rfl, he⟩)

/-- A repair leaves nothing of its own kind. -/
theorem Leaves.clears (h : Leaves e head e) (hl : e.Local head) (s : Text) : ¬e.Damaged none (e.repair s) := by
  rw [repair_eq_rewrite hl]
  intro hd
  obtain ⟨a, c, t, rfl, he, hf⟩ := h.of_rewrite (fun _ => id) hd
  rw [he] at hf
  exact Bool.noConfusion hf

/-! ## Repairs that begin with a backslash -/

/-- An entry whose repair begins with a backslash, and which reads nothing that goes on with a word. -/
structure Mends (f : Corruption) (first : Char) (words : List Text) (whole : Bool) (head : Text) : Prop
    extends Spells f first words whole head where
  slash : ∀ w ∈ words, ∃ u, head ++ w = '\\' :: u
  boundary : ∀ {l c s}, Text.isAsciiLetter l = true → f.starts (some l) (c :: s) = true → Text.isWordChar c = false

namespace Mends

theorem rewrite_eq (h : Mends f first words whole head) {before : Option Char} {c : Char} {s : Text}
    (hs : f.starts before (c :: s) = true) : ∃ u, f.rewrite head before (c :: s) = '\\' :: u := by
  obtain ⟨-, w, hw, r, rfl, -⟩ := h.of_starts hs
  obtain ⟨u, hu⟩ := h.slash w hw
  rw [rewrite_starts hs, rewrite_append fun t ht hs => h.inner w hw t r ht hs, ← List.append_assoc, hu]
  exact ⟨u ++ _, rfl⟩

/-- What holds no backslash was there before the repair. -/
theorem read_back (h : Mends f first words whole head) {w r : Text} (hw : '\\' ∉ w) : ∀ {before : Option Char} {s : Text},
    f.rewrite head before s = w ++ r → ∃ s', s = w ++ s' ∧ f.rewrite head (lastOf before w) s' = r := by
  induction w with
  | nil => exact fun he => ⟨_, rfl, he⟩
  | cons d w ih =>
    intro before s he
    cases s with
    | nil => simp [rewrite] at he
    | cons c s =>
      cases hs : f.starts before (c :: s) with
      | true =>
        obtain ⟨u, hu⟩ := h.rewrite_eq hs
        rw [hu, List.cons_append, List.cons.injEq] at he
        exact absurd (he.1 ▸ List.mem_cons_self) hw
      | false =>
        rw [rewrite_keeps hs, List.cons_append, List.cons.injEq] at he
        obtain ⟨rfl, he⟩ := he
        obtain ⟨s', rfl, hr⟩ := ih (fun hm => hw (List.mem_cons_of_mem _ hm)) he
        exact ⟨s', rfl, by rwa [lastOf_cons]⟩

/-- A word that ends in the repaired text ended there before. -/
theorem endsWord_back (h : Mends f first words whole head) {l : Char} (hl : Text.isAsciiLetter l = true) {s : Text}
    (he : Text.endsWord (f.rewrite head (some l) s) = true) : Text.endsWord s = true := by
  cases s with
  | nil => rfl
  | cons c s =>
    cases hs : f.starts (some l) (c :: s) with
    | true => rw [Text.endsWord, h.boundary hl hs, Bool.not_false]
    | false =>
      rw [rewrite_keeps hs] at he
      exact he

/-- An entry whose words hold no backslash reads what it read before. -/
theorem back_of_words (h : Mends f first words whole head) {first' : Char} {words' : List Text} {whole' : Bool}
    {head' : Text} (he : Spells e first' words' whole' head') (hw : ∀ w ∈ words', '\\' ∉ w)
    (hl : whole' = true → ∀ w ∈ words', ∃ l, w.getLast? = some l ∧ Text.isAsciiLetter l = true) {c : Char} {s : Text}
    (hr : (e.read? (c :: f.rewrite head (some c) s)).isSome = true) : (e.read? (c :: s)).isSome = true := by
  obtain ⟨rfl, w, hmem, r, hs, hend⟩ := he.read?_isSome_iff.1 hr
  obtain ⟨s', rfl, rfl⟩ := h.read_back (hw w hmem) hs
  refine he.read?_isSome_iff.2 ⟨rfl, w, hmem, s', rfl, fun hwhole => ?_⟩
  obtain ⟨l, hlast, hletter⟩ := hl hwhole w hmem
  have hend := hend hwhole
  rw [lastOf, hlast] at hend
  exact h.endsWord_back hletter hend

end Mends

/-- Damage that does not begin with a character of `head` begins behind it. -/
theorem Spells.quiet (he : Spells e first words whole head) {w : Text} (hw : first ∉ w) {before : Option Char}
    {s : Text} (hd : e.Damaged before (w ++ s)) : e.Damaged (lastOf before w) s := by
  refine (damaged_append (fun t ht hs => ?_) before).1 hd
  cases t with
  | nil => exact absurd rfl ht
  | cons c t => exact he.read?_of_ne (fun hc => hw (hc ▸ hs.subset List.mem_cons_self)) _

/-- An entry without a guard keeps what it has repaired. -/
theorem Mends.leaves (h : Mends f first words whole head) {first' : Char} {words' : List Text} {whole' : Bool}
    {head' : Text} (he : Spells e first' words' whole' head') (hw : ∀ w ∈ words', '\\' ∉ w)
    (hl : whole' = true → ∀ w ∈ words', ∃ l, w.getLast? = some l ∧ Text.isAsciiLetter l = true)
    (hfirst : first' ∉ head) (hg : ∀ c, e.guard c = false) : Leaves f head e where
  back _ hr := h.back_of_words he hw hl hr
  quiet := he.quiet hfirst
  guards _ _ _ := hg _

/-! ## The entries -/

/-- Letters end a word and hold no backslash. -/
theorem of_letters {w : Text} (hw : ∀ c ∈ w, Text.isAsciiLetter c = true) : '\\' ∉ w ∧
    (w ≠ [] → ∃ l, w.getLast? = some l ∧ Text.isAsciiLetter l = true) := by
  refine ⟨fun hm => absurd (hw _ hm) (by decide), fun hne => ?_⟩
  exact ⟨w.getLast hne, List.getLast?_eq_some_getLast hne, hw _ (List.getLast_mem hne)⟩

theorem escapes_words_ne_nil : ∀ x ∈ escapes, ∀ w ∈ x.words.map String.toList, w ≠ [] := by decide

theorem escapes_control_ne : ∀ x ∈ escapes, x.control ≠ '\uFFFD' ∧ x.letter ≠ '\uFFFD' := by decide

theorem Escape.Proper.mends {x : Escape} (h : x.Proper) :
    Mends x.corruption x.control (x.words.map String.toList) x.whole ['\\', x.letter] where
  toSpells := h.spells
  slash w _ := ⟨x.letter :: w, rfl⟩
  boundary _ hs := by
    rw [(h.spells.of_starts hs).1, h.control]

theorem mends_bareFraction : Mends bareFraction 'r' [['a', 'c', '\x7b']] false ['\\', 'f', 'r'] where
  toSpells := spells_bareFraction
  slash w _ := ⟨'f' :: 'r' :: w, rfl⟩
  boundary := by
    intro l c s hl hs
    have hg : bareFraction.guard l = true := by rw [bareFraction_guard, hl, Bool.true_or]
    simp [starts, hg] at hs

theorem mends_doubledBackslash :
    Mends doubledBackslash '\\' (doubledWords.map fun w => '\\' :: w.toList) true [] where
  toSpells := spells_doubledBackslash
  slash w hw := by
    obtain ⟨u, -, rfl⟩ := List.mem_map.1 hw
    exact ⟨u.toList, rfl⟩
  boundary _ hs := by
    rw [(spells_doubledBackslash.of_starts hs).1]
    decide

/-- No repair behind the first writes a character for an unreadable one. -/
theorem Mends.leaves_replacementCharacter (h : Mends f first words whole head) (hh : '\uFFFD' ∉ head) :
    Leaves f head replacementCharacter :=
  h.leaves spells_replacementCharacter (by simp) (by simp) hh fun _ => rfl

theorem Mends.leaves_escape (h : Mends f first words whole head) {x : Escape} (hx : x ∈ escapes) (hh : x.control ∉ head) :
    Leaves f head x.corruption := by
  have hp := escapes_proper x hx
  refine h.leaves hp.spells (fun w hw => (of_letters (hp.mem_letters hw)).1) (fun _ w hw => ?_) hh fun _ => rfl
  exact (of_letters (hp.mem_letters hw)).2 (escapes_words_ne_nil x hx w hw)

theorem leaves_bareFraction : Leaves bareFraction ['\\', 'f', 'r'] bareFraction where
  back _ hr := mends_bareFraction.back_of_words spells_bareFraction (by simp) (by simp) hr
  quiet := by
    intro before s hd
    have hd := spells_bareFraction.quiet (w := ['\\', 'f']) (by simp) hd
    rw [Damaged] at hd
    refine hd.resolve_left fun hs => ?_
    -- the letter in front of it guards the one that was written
    have hg : bareFraction.guard 'f' = true := by decide
    simp [starts, lastOf, hg] at hs
  guards := by
    intro before before' c s _ _ hg
    have : bareFraction.guard 'r' = true := by decide
    simp [lastOf, this] at hg

/-- Two backslashes are no fraction, nor is what follows one of them. -/
theorem leaves_bareFraction_doubledBackslash : Leaves doubledBackslash [] bareFraction where
  back _ hr := mends_doubledBackslash.back_of_words spells_bareFraction (by simp) (by simp) hr
  quiet hd := hd
  guards := by
    intro before before' c s hs hr _
    obtain ⟨-, w, hw, r, rfl, -⟩ := spells_doubledBackslash.of_starts hs
    obtain ⟨u, -, rfl⟩ := List.mem_map.1 hw
    rw [List.cons_append, spells_bareFraction.read?_of_ne (by decide)] at hr
    exact Bool.noConfusion hr

/-- What becomes two backslashes in front of a control word has been that. -/
theorem leaves_doubledBackslash : Leaves doubledBackslash [] doubledBackslash where
  back := by
    intro before c s _ hr
    obtain ⟨rfl, w, hw, r, hs, hend⟩ := spells_doubledBackslash.read?_isSome_iff.1 hr
    obtain ⟨u, hu, rfl⟩ := List.mem_map.1 hw
    cases s with
    | nil => simp [rewrite] at hs
    | cons d s =>
      -- behind a backslash nothing starts
      have hns : doubledBackslash.starts (some '\\') (d :: s) = false := by
        have hg : doubledBackslash.guard '\\' = true := by decide
        simp [starts, hg]
      rw [rewrite_keeps hns, List.cons_append, List.cons.injEq] at hs
      obtain ⟨rfl, hs⟩ := hs
      have hlu := doubledWords_letters u hu
      have hne := (doubledWords_spec u hu).2
      obtain ⟨hb, hlast⟩ := of_letters hlu
      obtain ⟨l, hl, hlet⟩ := hlast hne
      obtain ⟨s', rfl, rfl⟩ := mends_doubledBackslash.read_back hb hs
      refine spells_doubledBackslash.read?_isSome_iff.2 ⟨rfl, _, hw, s', rfl, fun hwhole => ?_⟩
      have hend := hend hwhole
      rw [lastOf, hl] at hend
      exact mends_doubledBackslash.endsWord_back hlet hend
  quiet hd := hd
  guards := by
    intro before before' c s hs hr _
    obtain ⟨-, w, hw, r, rfl, -⟩ := spells_doubledBackslash.of_starts hs
    rw [spells_doubledBackslash.inner w hw w r (fun h => ?_) List.suffix_rfl] at hr
    · exact Bool.noConfusion hr
    · obtain ⟨u, -, rfl⟩ := List.mem_map.1 hw
      exact List.cons_ne_nil _ _ h

/-! ## All repairs -/

/-- A repair of one kind keeps a text free of another kind. -/
def Keeps (f e : Corruption) : Prop := ∀ s, ¬e.Damaged none s → ¬e.Damaged none (f.repair s)

/-- A repair leaves a text free of its own kind. -/
def Clears (e : Corruption) : Prop := ∀ s, ¬e.Damaged none (e.repair s)

theorem keeps_foldl {l : List Corruption} (h : ∀ f ∈ l, Keeps f e) {s : Text} (hs : ¬e.Damaged none s) :
    ¬e.Damaged none (l.foldl (fun s f => f.repair s) s) := by
  induction l generalizing s with
  | nil => exact hs
  | cons f l ih => exact ih (fun g hg => h g (List.mem_cons_of_mem _ hg)) (h f List.mem_cons_self s hs)

/-- Repairs in an order in which each keeps what the earlier ones have done. -/
theorem foldl_repair {l : List Corruption} (hk : l.Pairwise fun e f => Keeps f e) (hc : ∀ e ∈ l, Clears e) (s : Text) :
    ∀ e ∈ l, ¬e.Damaged none (l.foldl (fun s f => f.repair s) s) := by
  induction l generalizing s with
  | nil => simp
  | cons f l ih =>
    obtain ⟨hf, hl⟩ := List.pairwise_cons.1 hk
    intro e he
    rcases List.mem_cons.1 he with rfl | he
    · exact keeps_foldl hf (hc _ List.mem_cons_self s)
    · exact ih hl (fun g hg => hc g (List.mem_cons_of_mem _ hg)) (f.repair s) e he

theorem Escape.Proper.control_not_mem {x y : Escape} (hx : x.Proper) (hy : y.Proper) : x.control ∉ ['\\', y.letter] := by
  simp only [List.mem_cons, List.not_mem_nil, or_false, not_or]
  refine ⟨hx.controlBackslash, fun he => ?_⟩
  have := hx.controlLetter
  rw [he, hy.letter] at this
  exact Bool.noConfusion this

theorem catalogue_keeps : catalogue.Pairwise fun e f => Keeps f e := by
  have hrep : ∀ f ∈ escapes.map Escape.corruption ++ [bareFraction, doubledBackslash], Keeps f replacementCharacter := by
    intro f hf s hs
    rcases List.mem_append.1 hf with hf | hf
    · obtain ⟨x, hx, rfl⟩ := List.mem_map.1 hf
      have hm := (escapes_proper x hx).mends
      have hne := (escapes_control_ne x hx).2
      exact (hm.leaves_replacementCharacter (by simpa using hne.symm)).keeps hm.isLocal hs
    · simp only [List.mem_cons, List.not_mem_nil, or_false] at hf
      rcases hf with rfl | rfl
      · exact (mends_bareFraction.leaves_replacementCharacter (by decide)).keeps mends_bareFraction.isLocal hs
      · exact (mends_doubledBackslash.leaves_replacementCharacter (by decide)).keeps mends_doubledBackslash.isLocal hs
  have hesc : (escapes.map Escape.corruption).Pairwise fun e f => Keeps f e := by
    rw [List.pairwise_map, List.pairwise_iff_forall_sublist]
    intro x y hxy s hs
    have hx : x ∈ escapes := hxy.subset (by simp)
    have hy := escapes_proper y (hxy.subset (by simp))
    exact (hy.mends.leaves_escape hx ((escapes_proper x hx).control_not_mem hy)).keeps hy.mends.isLocal hs
  have hbehind : ∀ e ∈ escapes.map Escape.corruption, ∀ f ∈ [bareFraction, doubledBackslash], Keeps f e := by
    intro e he f hf s hs
    obtain ⟨x, hx, rfl⟩ := List.mem_map.1 he
    have hout : x.control ∉ ['\\', 'f', 'r'] := by
      have key : ∀ x ∈ escapes, x.control ∉ ['\\', 'f', 'r'] := by decide
      exact key x hx
    simp only [List.mem_cons, List.not_mem_nil, or_false] at hf
    rcases hf with rfl | rfl
    · exact (mends_bareFraction.leaves_escape hx hout).keeps mends_bareFraction.isLocal hs
    · exact (mends_doubledBackslash.leaves_escape hx (by simp)).keeps mends_doubledBackslash.isLocal hs
  have hlast : [bareFraction, doubledBackslash].Pairwise fun e f => Keeps f e := by
    simp only [List.pairwise_cons, List.mem_singleton, forall_eq, List.not_mem_nil, false_implies, implies_true,
      List.Pairwise.nil, and_true]
    exact fun s hs => leaves_bareFraction_doubledBackslash.keeps mends_doubledBackslash.isLocal hs
  rw [catalogue_eq, List.cons_append, List.pairwise_cons, List.pairwise_append]
  exact ⟨hrep, hesc, hlast, hbehind⟩

theorem clears_replacementCharacter : Clears replacementCharacter := by
  intro s
  rw [repair_eq_rewrite spells_replacementCharacter.isLocal, damaged_iff]
  rintro ⟨a, c, t, he, hs⟩
  have hmem : ∀ (before : Option Char) (s : Text), '\uFFFD' ∉ replacementCharacter.rewrite [] before s := by
    intro before s
    induction s generalizing before with
    | nil => simp [rewrite]
    | cons d s ih =>
      by_cases hd : d = '\uFFFD'
      · have hst : replacementCharacter.starts before (d :: s) = true := by
          rw [hd, starts, replacementCharacter_read?]
          cases before <;> rfl
        rw [rewrite_starts hst]
        exact ih _
      · rw [rewrite_keeps (spells_replacementCharacter.starts_of_ne hd _ _), List.mem_cons, not_or]
        exact ⟨fun h => hd h.symm, ih _⟩
  refine hmem none s ?_
  rw [he, (spells_replacementCharacter.of_starts hs).1]
  simp

theorem catalogue_clears : ∀ e ∈ catalogue, Clears e := by
  intro e he
  rw [catalogue_eq, List.cons_append, List.mem_cons, List.mem_append] at he
  rcases he with rfl | he | he
  · exact clears_replacementCharacter
  · obtain ⟨x, hx, rfl⟩ := List.mem_map.1 he
    have hp := escapes_proper x hx
    exact (hp.mends.leaves_escape hx (hp.control_not_mem hp)).clears hp.mends.isLocal
  · simp only [List.mem_cons, List.not_mem_nil, or_false] at he
    rcases he with rfl | rfl
    · exact leaves_bareFraction.clears mends_bareFraction.isLocal
    · exact leaves_doubledBackslash.clears mends_doubledBackslash.isLocal

end Coursebook.Corruption

namespace Coursebook.Integrity

open Corruption (catalogue)

/-- **Repaired of all kinds, a text is damaged in none.** -/
theorem not_damaged_repairAll (s : Text) : ∀ e ∈ catalogue, ¬e.Damaged none (repairAll s) :=
  Corruption.foldl_repair Corruption.catalogue_keeps Corruption.catalogue_clears s

end Coursebook.Integrity
