/-
What normal form C does around the characters that it leaves alone.

A `Solid` character does not decompose, is no mark, and composes with
nothing in front of it. So a text is normalized on both sides of it apart
(`normalize_append`), and in a text whose characters are all those of normal
form C (`Settled`) a solid character that is there afterwards was there
before (`exists_of_normalize_eq`).
-/
import Coursebook.Proofs.Text.Normal.Compose

namespace Coursebook.Text

/-- A character that stays what it is behind any text. -/
structure Solid (c : Char) : Prop where
  alone : decomposeChar c = [c]
  starter : combiningClass c = 0
  second : ∀ a, composePair? a c = none

theorem Solid.of_lt {c : Char} (h : c.toNat < 0xC0) : Solid c where
  alone := decomposeChar_of_lt h
  starter := combiningClass_of_lt (by omega)
  second a := composePair?_of_lt (by omega)

/-- A character that is part of no word is solid if it does not decompose. -/
theorem Solid.of_not_isWordChar {c : Char} (h : isWordChar c = false) (ha : decomposeChar c = [c]) : Solid c where
  alone := ha
  starter := by
    by_cases hc : combiningClass c = 0
    · exact hc
    · rw [isWordChar_of_combiningClass hc] at h
      exact absurd h (by simp)
  second a := by
    cases hp : composePair? a c with
    | none => rfl
    | some d =>
      rw [isWordChar_second hp] at h
      exact absurd h (by simp)

theorem Solid.of_composePair? {a b d : Char} (h : composePair? a b = some d) : ¬Solid b := by
  intro hb
  rw [hb.second a] at h
  exact absurd h (by simp)

/-- What a pair composes to. -/
def Composite (d : Char) : Prop := ∃ a b, composePair? a b = some d

theorem Composite.not_solid {d : Char} (h : Composite d) : ¬Solid d := by
  obtain ⟨a, b, hd⟩ := h
  intro hs
  have he := decomposeChar_of_composePair? hd
  rw [hs.alone] at he
  have hlen := congrArg List.length he
  have hne := List.length_pos_iff.2 (decomposeChar_ne_nil a)
  simp only [List.length_append, List.length_cons, List.length_nil] at hlen
  omega

/-! ## Where a text may be cut -/

theorem composeAfter_append {c : Char} (hc : Solid c) (y : Text) (x : Text) :
    ∀ (starter : Char) (kept : Text), composeAfter starter kept (x ++ c :: y) =
      composeAfter starter kept x ++ composeAfter c [] y := by
  induction x with
  | nil =>
    intro starter kept
    rw [List.nil_append, composeAfter_eq, hc.second, ite_self, if_pos hc.starter]
    rfl
  | cons d x ih =>
    intro starter kept
    rw [List.cons_append]
    rcases composeAfter_cons starter kept d x with ⟨e, hf, he, h⟩ | ⟨hn, ⟨hd, h⟩ | ⟨hd, h⟩⟩
    · rw [h, composeAfter_eq, if_pos hf, he]
      exact ih e kept
    · rw [h, composeAfter_eq, ite_eq_right_iff.2 hn]
      simp only [hd, if_true, ih, List.cons_append, List.append_assoc]
    · rw [h, composeAfter_eq, ite_eq_right_iff.2 hn]
      simp only [hd, if_false, ih]

theorem compose_starter {c : Char} (h : combiningClass c = 0) (s : Text) : compose (c :: s) = composeAfter c [] s := by
  rw [compose, if_pos h]

theorem compose_append {c : Char} (hc : Solid c) (y x : Text) :
    compose (x ++ c :: y) = compose x ++ composeAfter c [] y := by
  induction x with
  | nil => exact compose_starter hc.starter y
  | cons d x ih =>
    rw [List.cons_append, compose, compose]
    split
    · exact composeAfter_append hc y x d []
    · rw [ih, List.cons_append]

/-- A character whose decomposition begins with a solid one. -/
def Leads (c : Char) : Prop := ∃ a ms, decomposeChar c = a :: ms ∧ Solid a

theorem Solid.leads {c : Char} (h : Solid c) : Leads c := ⟨c, [], h.alone, h⟩

theorem normalize_leads {c a : Char} {ms : Text} (h : decomposeChar c = a :: ms) (ha : Solid a) (y : Text) :
    normalize (c :: y) = composeAfter a [] (orderMarks (ms ++ y.flatMap decomposeChar)) := by
  rw [normalize, List.flatMap_cons, h, List.cons_append, orderMarks_cons_starter ha.starter,
    compose_starter ha.starter]

/-- **A text is normalized in parts** where the later one begins with a solid character. -/
theorem normalize_append (x : Text) {y : Text} (h : ∀ c ∈ y.head?, Leads c) :
    normalize (x ++ y) = normalize x ++ normalize y := by
  cases y with
  | nil => simp [normalize, orderMarks, compose]
  | cons c y =>
    obtain ⟨a, ms, he, ha⟩ := h c rfl
    rw [normalize_leads he ha, normalize, List.flatMap_append, List.flatMap_cons, he, List.cons_append,
      orderMarks_append_starter ha.starter, compose_append ha]
    rfl

theorem normalize_solid {c : Char} (h : Solid c) : normalize [c] = [c] := by
  rw [normalize_leads h.alone h]
  rfl

theorem normalize_eq_self_of_solid {s : Text} (h : ∀ c ∈ s, Solid c) : normalize s = s := by
  induction s with
  | nil => rfl
  | cons c s ih =>
    obtain ⟨hc, hs⟩ := List.forall_mem_cons.1 h
    have hlead : ∀ d ∈ s.head?, Leads d := fun d hd => (hs d (List.mem_of_mem_head? hd)).leads
    rw [← List.singleton_append, normalize_append [c] hlead, normalize_solid hc, ih hs]

/-! ## White space, braces and signs -/

theorem composeAfter_loose {c : Char} (h : ∀ b, composePair? c b = none) (s : Text) :
    ∀ kept, composeAfter c kept s = c :: kept.reverse ++ compose s := by
  induction s with
  | nil => exact fun kept => (List.append_nil _).symm
  | cons d s ih =>
    intro kept
    rw [composeAfter_eq, h, ite_self, compose]
    by_cases hd : combiningClass d = 0
    · simp only [hd, if_true]
    · simp only [hd, if_false, ih]
      simp

/-- What stands behind such a character is normalized apart from it. -/
theorem normalize_cons_loose {c : Char} (hc : Solid c) (h : isLoose c = true) (s : Text) :
    normalize (c :: s) = c :: normalize s := by
  rw [normalize_leads hc.alone hc, composeAfter_loose fun b => composePair?_of_isLoose h]
  rfl

/-! ## Characters of normal form C -/

/-- A character that a starter `a` and the characters `ms` behind it compose to, one after the other. -/
structure Composes (c a : Char) (ms : Text) : Prop where
  eq : decomposeChar c = a :: ms
  starter : combiningClass a = 0
  pair : ∀ m ∈ ms.head?, (composePair? a m).isSome = true
  notSolid : ∀ m ∈ ms, ¬Solid m
  word : isWordChar c = isWordChar a
  alone : ms = [] → c = a
  blank : ms ≠ [] → isBlank c = false

/-- A character that normal form C may hold. -/
def Settled (c : Char) : Prop := decomposeChar c = [c] ∨ ∃ a ms, Composes c a ms

theorem Composes.single {c : Char} (h : decomposeChar c = [c]) (hc : combiningClass c = 0) : Composes c c [] where
  eq := h
  starter := hc
  pair := by simp
  notSolid := by simp
  word := rfl
  alone _ := rfl
  blank h := absurd rfl h

theorem Composes.concat {c a b d : Char} {ms : Text} (h : Composes c a ms) (hd : composePair? c b = some d) :
    Composes d a (ms ++ [b]) where
  eq := by rw [decomposeChar_of_composePair? hd, h.eq, List.cons_append]
  starter := h.starter
  pair := by
    intro m hm
    cases ms with
    | nil =>
      cases hm
      rw [← h.alone rfl, hd]
      rfl
    | cons k ms => exact h.pair m hm
  notSolid := by
    intro m hm
    rcases List.mem_append.1 hm with hm | hm
    · exact h.notSolid m hm
    · rw [List.mem_singleton.1 hm]
      exact Solid.of_composePair? hd
  word := by rw [isWordChar_composite hd, h.word]
  alone h := absurd h (by simp)
  blank _ := isBlank_composite hd

theorem Settled.of_lt {c : Char} (h : c.toNat < 0xC0) : Settled c := .inl (decomposeChar_of_lt h)

/-- White space of normal form C is solid. -/
theorem Settled.solid_of_isBlank {c : Char} (h : Settled c) (hb : isBlank c = true) : Solid c := by
  have hw : isWordChar c = false := not_isWordChar_of_isBlank hb
  rcases h with ha | ⟨a, ms, hc⟩
  · exact Solid.of_not_isWordChar hw ha
  · cases ms with
    | nil => exact Solid.of_not_isWordChar hw (by rw [hc.eq, hc.alone rfl])
    | cons m ms =>
      rw [hc.blank (by simp)] at hb
      exact absurd hb (by simp)

theorem settled_of_mem_composeAfter {s : Text} (ha : ∀ c ∈ s, decomposeChar c = [c]) :
    ∀ (starter : Char) (kept : Text), (∃ a ms, Composes starter a ms) → (∀ k ∈ kept, decomposeChar k = [k]) →
      ∀ e ∈ composeAfter starter kept s, Settled e := by
  induction s with
  | nil =>
    intro starter kept hs hk e he
    rw [composeAfter, List.mem_cons, List.mem_reverse] at he
    rcases he with rfl | he
    · exact .inr hs
    · exact .inl (hk e he)
  | cons c s ih =>
    intro starter kept hs hk e he
    have ha' : ∀ d ∈ s, decomposeChar d = [d] := fun d hd => ha d (List.mem_cons_of_mem _ hd)
    rcases composeAfter_cons starter kept c s with ⟨d, -, hd, h⟩ | ⟨-, ⟨hc, h⟩ | ⟨-, h⟩⟩
    · obtain ⟨a, ms, hs⟩ := hs
      exact ih ha' d kept ⟨a, _, hs.concat hd⟩ hk e (h ▸ he)
    · rw [h, List.cons_append, List.mem_cons, List.mem_append, List.mem_reverse] at he
      rcases he with rfl | he | he
      · exact .inr hs
      · exact .inl (hk e he)
      · exact ih ha' c [] ⟨c, [], Composes.single (ha c List.mem_cons_self) hc⟩ (by simp) e he
    · refine ih ha' starter (c :: kept) hs (fun k hk' => ?_) e (h ▸ he)
      rcases List.mem_cons.1 hk' with rfl | hk'
      · exact ha _ List.mem_cons_self
      · exact hk k hk'

theorem settled_of_mem_compose {s : Text} (ha : ∀ c ∈ s, decomposeChar c = [c]) : ∀ e ∈ compose s, Settled e := by
  induction s with
  | nil => simp [compose]
  | cons c s ih =>
    have ha' : ∀ d ∈ s, decomposeChar d = [d] := fun d hd => ha d (List.mem_cons_of_mem _ hd)
    have hc := ha c List.mem_cons_self
    rw [compose]
    split
    · next h0 => exact settled_of_mem_composeAfter ha' c [] ⟨c, [], Composes.single hc h0⟩ (by simp)
    · intro e he
      rcases List.mem_cons.1 he with rfl | he
      · exact .inl hc
      · exact ih ha' e he

/-- **Normal form C holds only characters that it may hold.** -/
theorem settled_of_mem_normalize {s : Text} {c : Char} (h : c ∈ normalize s) : Settled c :=
  settled_of_mem_compose (fun _ hd => mem_decompose hd) c h

/-- Whether a word ends there is seen on the decomposition as well. -/
theorem endsWord_decompose {s : Text} (h : ∀ c ∈ s, Settled c) : endsWord (decompose s) = endsWord s := by
  cases s with
  | nil => rfl
  | cons c s =>
    rw [decompose, List.flatMap_cons]
    rcases h c List.mem_cons_self with ha | ⟨a, ms, hc⟩
    · by_cases h0 : combiningClass c = 0
      · rw [ha, List.singleton_append, orderMarks_cons_starter h0]
        rfl
      · obtain ⟨m, r, he, hm⟩ := orderMarks_cons_mark h0 (s.flatMap decomposeChar)
        rw [ha, List.singleton_append, he, endsWord, endsWord, isWordChar_of_combiningClass hm,
          isWordChar_of_combiningClass h0]
    · rw [hc.eq, List.cons_append, orderMarks_cons_starter hc.starter, endsWord, endsWord, hc.word]

/-! ## Solid characters come from where they stand -/

/-- A character that decomposes into no solid one. -/
def Trails (c : Char) : Prop := ∀ e ∈ decomposeChar c, ¬Solid e

theorem Settled.leads_or_trails {c : Char} (h : Settled c) : Leads c ∨ Trails c := by
  rcases h with ha | ⟨a, ms, hc⟩
  · by_cases hs : Solid c
    · exact .inl hs.leads
    · exact .inr (by simpa [Trails, ha] using hs)
  · by_cases hs : Solid a
    · exact .inl ⟨a, ms, hc.eq, hs⟩
    · refine .inr fun e he => ?_
      rw [hc.eq] at he
      rcases List.mem_cons.1 he with rfl | he
      · exact hs
      · exact hc.notSolid e he

/-- What stands in a composed text was there or is a composite; the first character is the starter or a
composite. -/
theorem composeAfter_parts (s : Text) : ∀ (starter : Char) (kept : Text), ∃ h t, composeAfter starter kept s = h :: t ∧
    (h = starter ∨ Composite h) ∧ ∀ e ∈ t, e ∈ kept ∨ e ∈ s ∨ Composite e := by
  induction s with
  | nil =>
    intro starter kept
    exact ⟨starter, kept.reverse, rfl, .inl rfl, fun e he => .inl (List.mem_reverse.1 he)⟩
  | cons c s ih =>
    intro starter kept
    rcases composeAfter_cons starter kept c s with ⟨d, -, hd, he⟩ | ⟨-, ⟨-, he⟩ | ⟨-, he⟩⟩
    · obtain ⟨h, t, hc, hh, ht⟩ := ih d kept
      refine ⟨h, t, he.trans hc, .inr ?_, fun e hm => ?_⟩
      · rcases hh with rfl | hh
        · exact ⟨starter, c, hd⟩
        · exact hh
      · exact (ht e hm).imp_right fun h => h.imp_left (List.mem_cons_of_mem c)
    · obtain ⟨h, t, hc, hh, ht⟩ := ih c []
      refine ⟨starter, kept.reverse ++ composeAfter c [] s, he, .inl rfl, fun e hm => ?_⟩
      rcases List.mem_append.1 hm with hm | hm
      · exact .inl (List.mem_reverse.1 hm)
      · rw [hc] at hm
        rcases List.mem_cons.1 hm with rfl | hm
        · rcases hh with rfl | hh
          · exact .inr (.inl List.mem_cons_self)
          · exact .inr (.inr hh)
        · rcases ht e hm with hm | hm | hm
          · cases hm
          · exact .inr (.inl (List.mem_cons_of_mem _ hm))
          · exact .inr (.inr hm)
    · obtain ⟨h, t, hc, hh, ht⟩ := ih starter (c :: kept)
      refine ⟨h, t, he.trans hc, hh, fun e hm => ?_⟩
      rcases ht e hm with hm | hm | hm
      · rcases List.mem_cons.1 hm with rfl | hm
        · exact .inr (.inl List.mem_cons_self)
        · exact .inl hm
      · exact .inr (.inl (List.mem_cons_of_mem _ hm))
      · exact .inr (.inr hm)

theorem mem_compose {s : Text} {e : Char} (h : e ∈ compose s) : e ∈ s ∨ Composite e := by
  induction s with
  | nil => cases h
  | cons c s ih =>
    rw [compose] at h
    split at h
    · obtain ⟨d, t, he, hd, ht⟩ := composeAfter_parts s c []
      rw [he] at h
      rcases List.mem_cons.1 h with rfl | h
      · rcases hd with rfl | hd
        · exact .inl List.mem_cons_self
        · exact .inr hd
      · rcases ht e h with h | h
        · cases h
        · exact h.imp_left (List.mem_cons_of_mem c)
    · rcases List.mem_cons.1 h with rfl | h
      · exact .inl List.mem_cons_self
      · exact (ih h).imp_left (List.mem_cons_of_mem c)

/-- Behind marks of smaller classes a character composes with the starter if the starter is what it was. -/
theorem composite_head {m : Char} (r : Text) {w : Text}
    (hw : ∀ k ∈ w, combiningClass k ≠ 0 ∧ combiningClass k < combiningClass m) :
    ∀ (starter : Char) (kept : Text), Composite starter ∨ (composePair? starter m).isSome = true →
      (∀ k ∈ kept, combiningClass k < combiningClass m) →
      ∃ h t, composeAfter starter kept (w ++ m :: r) = h :: t ∧ Composite h := by
  have done : ∀ (s : Text) (starter : Char) (kept : Text), Composite starter →
      ∃ h t, composeAfter starter kept s = h :: t ∧ Composite h := by
    intro s starter kept hs
    obtain ⟨h, t, he, hh, -⟩ := composeAfter_parts s starter kept
    refine ⟨h, t, he, ?_⟩
    rcases hh with rfl | hh
    · exact hs
    · exact hh
  induction w with
  | nil =>
    intro starter kept hs hk
    rcases hs with hs | hs
    · exact done _ _ _ hs
    · have hf : Free kept m := fun k hm => hk k (List.mem_of_mem_head? hm)
      obtain ⟨d, hd⟩ := Option.isSome_iff_exists.1 hs
      rw [List.nil_append, composeAfter_eq, if_pos hf, hd]
      exact done _ _ _ ⟨starter, m, hd⟩
  | cons c w ih =>
    intro starter kept hs hk
    have hc := hw c List.mem_cons_self
    rw [List.cons_append]
    rcases composeAfter_cons starter kept c (w ++ m :: r) with ⟨d, -, hd, he⟩ | ⟨-, ⟨h0, -⟩ | ⟨-, he⟩⟩
    · rw [he]
      exact done _ _ _ ⟨starter, c, hd⟩
    · exact absurd h0 hc.1
    · rw [he]
      refine ih (fun k hk => hw k (List.mem_cons_of_mem _ hk)) starter (c :: kept) hs fun k hk' => ?_
      rcases List.mem_cons.1 hk' with rfl | hk'
      · exact hc.2
      · exact hk k hk'

theorem not_solid_of_trails {w : Text} (h : ∀ c ∈ w, Trails c) : ∀ e ∈ orderMarks (w.flatMap decomposeChar), ¬Solid e := by
  intro e he
  obtain ⟨c, hc, hm⟩ := List.mem_flatMap.1 ((orderMarks_perm _).mem_iff.1 he)
  exact h c hc e hm

theorem not_solid_normalize {w : Text} (h : ∀ c ∈ w, Trails c) : ∀ e ∈ normalize w, ¬Solid e := by
  intro e he
  rcases mem_compose he with hm | hm
  · exact not_solid_of_trails h e hm
  · exact hm.not_solid

/-- A leading character and what trails it: a solid character can only stand in front, and it is that one. -/
theorem normalize_block {c : Char} {w : Text} (hs : Settled c) (hc : Leads c) (hw : ∀ d ∈ w, Trails d) :
    ∃ h t, normalize (c :: w) = h :: t ∧ (Solid h → h = c) ∧ ∀ e ∈ t, ¬Solid e := by
  obtain ⟨a, ms, he, ha⟩ := hc
  have hms : ∀ m ∈ ms, ¬Solid m := by
    rcases hs with hd | ⟨a', ms', hd⟩
    · rw [hd, List.cons.injEq] at he
      simp [← he.2]
    · rw [hd.eq, List.cons.injEq] at he
      rw [← he.2]
      exact hd.notSolid
  have hz : ∀ e ∈ orderMarks (ms ++ w.flatMap decomposeChar), ¬Solid e := by
    intro e hm
    rcases List.mem_append.1 ((orderMarks_perm _).mem_iff.1 hm) with hm | hm
    · exact hms e hm
    · obtain ⟨d, hd, hm⟩ := List.mem_flatMap.1 hm
      exact hw d hd e hm
  rw [normalize_leads he ha]
  obtain ⟨h, t, hcomp, hh, ht⟩ := composeAfter_parts (orderMarks (ms ++ w.flatMap decomposeChar)) a []
  refine ⟨h, t, hcomp, fun hsol => ?_, fun e hm => ?_⟩
  · cases ms with
    | nil =>
      have : h = a := hh.resolve_right fun hcs => hcs.not_solid hsol
      rcases hs with hd | ⟨a', ms', hd⟩
      · rw [hd, List.cons.injEq] at he
        rw [this, he.1]
      · have he' := hd.eq.symm.trans he
        rw [List.cons.injEq] at he'
        rw [this, ← he'.1, hd.alone he'.2]
    | cons m ms =>
      -- the first of what `c` composes with is there, so it composes again
      have hpair : (composePair? a m).isSome = true := by
        rcases hs with hd | ⟨a', ms', hd⟩
        · rw [hd] at he
          simp at he
        · rw [hd.eq, List.cons.injEq] at he
          obtain ⟨rfl, rfl⟩ := he
          exact hd.pair m rfl
      obtain ⟨w', r, hord, hw'⟩ := placeMark_eq m (orderMarks (ms ++ w.flatMap decomposeChar))
      obtain ⟨h', t', hcomp', hh'⟩ := composite_head r hw' a [] (.inr hpair) (by simp)
      rw [List.cons_append, orderMarks, hord, hcomp', List.cons.injEq] at hcomp
      exact absurd hsol (hcomp.1 ▸ hh'.not_solid)
  · rcases ht e hm with hm | hm | hm
    · cases hm
    · exact hz e hm
    · exact hm.not_solid

theorem exists_leads {x : Text} (h : ∀ c ∈ x, Settled c) :
    ∃ w r, x = w ++ r ∧ (∀ c ∈ w, Trails c) ∧ ∀ c ∈ r.head?, Leads c := by
  induction x with
  | nil => exact ⟨[], [], rfl, by simp, by simp⟩
  | cons c x ih =>
    rcases (h c List.mem_cons_self).leads_or_trails with hc | hc
    · exact ⟨[], c :: x, rfl, by simp, fun d hd => by cases hd; exact hc⟩
    · obtain ⟨w, r, rfl, hw, hr⟩ := ih fun d hd => h d (List.mem_cons_of_mem _ hd)
      refine ⟨c :: w, r, rfl, fun d hd => ?_, hr⟩
      rcases List.mem_cons.1 hd with rfl | hd
      · exact hc
      · exact hw d hd

/-- A member of one half of a text parts that half. -/
theorem append_eq_of_not_mem {a b p q : Text} {c : Char} (h : a ++ b = p ++ c :: q) (ha : c ∉ a) :
    ∃ p', p = a ++ p' ∧ b = p' ++ c :: q := by
  rcases List.append_eq_append_iff.1 h with ⟨p', hp, hb⟩ | ⟨a', hp, hb⟩
  · exact ⟨p', hp, hb⟩
  · cases a' with
    | nil => exact ⟨[], by simpa using hp.symm, hb.symm⟩
    | cons d a' =>
      rw [List.cons_append, List.cons.injEq] at hb
      rw [hp, hb.1] at ha
      exact absurd (List.mem_append_right p List.mem_cons_self) ha

theorem head?_append_of_leads {p r : Text} {c : Char} {s : Text} (h : r = p ++ c :: s) (hr : ∀ c ∈ r.head?, Leads c) :
    ∀ c ∈ p.head?, Leads c := by
  intro d hd
  refine hr d ?_
  cases p with
  | nil => cases hd
  | cons e p => rw [h]; exact hd

theorem exists_of_normalize_eq_of_leads {c : Char} (hc : Solid c) (x : Text) (hx : ∀ d ∈ x, Settled d)
    (hlead : ∀ d ∈ x.head?, Leads d) {p q : Text} (h : normalize x = p ++ c :: q) :
    ∃ p0 q0, x = p0 ++ c :: q0 ∧ normalize p0 = p ∧ normalize (c :: q0) = c :: q := by
  induction hn : x.length using Nat.strongRecOn generalizing x p with
  | ind n ih =>
  cases x with
  | nil => simp [normalize, orderMarks, compose] at h
  | cons d x =>
    obtain ⟨w, r, rfl, hw, hr⟩ := exists_leads fun e he => hx e (List.mem_cons_of_mem d he)
    have hd := hlead d rfl
    obtain ⟨b, t, hblock, hb, ht⟩ := normalize_block (hx d List.mem_cons_self) hd hw
    have hwhole : normalize (d :: (w ++ r)) = normalize (d :: w) ++ normalize r := normalize_append (d :: w) hr
    rw [hwhole, hblock] at h
    cases p with
    | nil =>
      rw [List.cons_append, List.nil_append, List.cons.injEq] at h
      obtain ⟨rfl, h⟩ := h
      have := hb hc
      subst this
      refine ⟨[], w ++ r, rfl, rfl, ?_⟩
      rw [hwhole, hblock, List.cons_append, h]
    | cons e p =>
      rw [List.cons_append, List.cons_append, List.cons.injEq] at h
      obtain ⟨rfl, h⟩ := h
      obtain ⟨p', rfl, hrest⟩ := append_eq_of_not_mem h fun hm => ht c hm hc
      have hlen : r.length < n := by
        rw [← hn]
        simp only [List.length_cons, List.length_append]
        omega
      have hsub : ∀ e ∈ r, Settled e := fun e he => hx e (by simp [he])
      obtain ⟨p0, q0, rfl, hp0, hq0⟩ := ih r.length hlen r hsub hr hrest rfl
      refine ⟨d :: (w ++ p0), q0, by simp, ?_, hq0⟩
      have hp : normalize (d :: (w ++ p0)) = normalize (d :: w) ++ normalize p0 :=
        normalize_append (d :: w) (head?_append_of_leads rfl hr)
      rw [hp, hblock, hp0, List.cons_append]

/-- **A solid character of a normalized text was there before**, and the text was normalized on both sides
of it apart. -/
theorem exists_of_normalize_eq {x p q : Text} {c : Char} (hx : ∀ d ∈ x, Settled d) (hc : Solid c)
    (h : normalize x = p ++ c :: q) :
    ∃ p0 q0, x = p0 ++ c :: q0 ∧ normalize p0 = p ∧ normalize (c :: q0) = c :: q := by
  obtain ⟨w, r, rfl, hw, hr⟩ := exists_leads hx
  rw [normalize_append w hr] at h
  obtain ⟨p', rfl, hrest⟩ := append_eq_of_not_mem h fun hm => not_solid_normalize hw c hm hc
  obtain ⟨p0, q0, rfl, hp0, hq0⟩ :=
    exists_of_normalize_eq_of_leads hc r (fun d hd => hx d (List.mem_append_right _ hd)) hr hrest
  refine ⟨w ++ p0, q0, by simp, ?_, hq0⟩
  rw [normalize_append w (head?_append_of_leads rfl hr), hp0]

/-! ## Reading a normalized text -/

theorem Solid.decompose_cons {c : Char} (h : Solid c) (s : Text) : decompose (c :: s) = c :: decompose s := by
  rw [decompose, List.flatMap_cons, h.alone, List.singleton_append, orderMarks_cons_starter h.starter, decompose]

theorem eq_nil_of_decompose {s : Text} (h : decompose s = []) : s = [] := by
  have hlen := (orderMarks_perm (s.flatMap decomposeChar)).length_eq
  rw [← decompose, h] at hlen
  cases s with
  | nil => rfl
  | cons c s =>
    have := List.length_pos_iff.2 (decomposeChar_ne_nil c)
    rw [List.flatMap_cons, List.length_append, List.length_nil] at hlen
    omega

/-- What is left to read of a text, and of the text normalized, behind the same solid character. -/
def Behind (s s' : Text) : Prop := (∀ c ∈ s, Settled c) ∧ ∃ c, Solid c ∧ normalize (c :: s) = c :: s'

theorem Behind.settled {s s' : Text} (h : Behind s s') : ∀ c ∈ s', Settled c := by
  obtain ⟨-, c, -, he⟩ := h
  exact fun d hd => settled_of_mem_normalize (he ▸ List.mem_cons_of_mem c hd)

/-- A solid character that is read afterwards is read before. -/
theorem Behind.cons {s s' : Text} {c : Char} (h : Behind s (c :: s')) (hc : Solid c) : ∃ r, s = c :: r ∧ Behind r s' := by
  obtain ⟨hs, d, hd, he⟩ := h
  have hsett : ∀ e ∈ d :: s, Settled e := by
    intro e he
    rcases List.mem_cons.1 he with rfl | he
    · exact .inl hd.alone
    · exact hs e he
  have he' : normalize (d :: s) = [d] ++ c :: s' := he
  obtain ⟨p, q, hpq, hp, hq⟩ := exists_of_normalize_eq hsett hc he'
  cases p with
  | nil => simp [normalize, orderMarks, compose] at hp
  | cons e p =>
    rw [List.cons_append, List.cons.injEq] at hpq
    obtain ⟨rfl, rfl⟩ := hpq
    -- nothing stands in between, for it would have to be in the decomposition
    have hdec := congrArg decompose hp
    rw [decompose_normalize, hd.decompose_cons, hd.decompose_cons, List.cons.injEq] at hdec
    obtain rfl := eq_nil_of_decompose hdec.2
    exact ⟨q, rfl, fun e he => hs e (by simp [he]), c, hc, hq⟩

/-- White space, a brace or a sign that is read before is read afterwards. -/
theorem Behind.cons_loose {s s' : Text} {c : Char} (h : Behind (c :: s) s') (hc : Solid c) (hl : isLoose c = true) :
    ∃ r, s' = c :: r ∧ Behind s r := by
  obtain ⟨hs, d, hd, he⟩ := h
  have hcut : normalize ([d] ++ c :: s) = normalize [d] ++ normalize (c :: s) :=
    normalize_append [d] fun e hm => by cases hm; exact hc.leads
  rw [List.singleton_append, he, normalize_solid hd, normalize_cons_loose hc hl, List.singleton_append,
    List.cons.injEq] at hcut
  exact ⟨normalize s, hcut.2, fun e he => hs e (List.mem_cons_of_mem _ he), c, hc, normalize_cons_loose hc hl s⟩

theorem Behind.endsWord {s s' : Text} (h : Behind s s') : endsWord s = endsWord s' := by
  have hs' := h.settled
  obtain ⟨hs, c, hc, he⟩ := h
  have hd : decompose (c :: s) = decompose (c :: s') := by rw [← he, decompose_normalize]
  rw [hc.decompose_cons, hc.decompose_cons, List.cons.injEq] at hd
  rw [← endsWord_decompose hs, ← endsWord_decompose hs', hd.2]

end Coursebook.Text
