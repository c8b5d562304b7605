/-
Reading a pattern. What is read is a stretch of characters that the steps
take (`readAll_eq`), and two texts that agree on the characters a pattern
looks at are read in the same way (`Mirror.readAll`).
-/
import Coursebook.Text.Pattern
import Coursebook.Text.WordChar

namespace Coursebook.Text

/-- A text without the character `c` at its head, if it is there. -/
def skip (c : Char) (s : Text) : Text := if s.head? = some c then s.tail else s

theorem skip_cons_self (c : Char) (s : Text) : skip c (c :: s) = s := if_pos rfl

theorem skip_of_ne {c : Char} {s : Text} (h : s.head? ≠ some c) : skip c s = s := if_neg h

namespace Step

theorem read_maybe (c : Char) (s : Text) : (maybe c).read s = some ([], skip c s) := rfl

theorem read_exactly {lead s r : Text} {kept : List Text} :
    (exactly lead).read s = some (kept, r) ↔ kept = [] ∧ s = lead ++ r := by
  simp only [read, Option.map_eq_some_iff, Prod.mk.injEq, after?_eq_some]
  constructor
  · rintro ⟨r', hs, rfl, rfl⟩
    exact ⟨rfl, hs⟩
  · rintro ⟨rfl, hs⟩
    exact ⟨r, hs, rfl, rfl⟩

theorem read_character {p : Char → Bool} {s r : Text} {kept : List Text} :
    (character p).read s = some (kept, r) ↔ ∃ c, p c = true ∧ s = c :: r ∧ kept = [[c]] := by
  cases s with
  | nil => simp [read]
  | cons c s =>
    rw [read]
    constructor
    · intro h
      split at h
      · next hc =>
        simp only [Option.some.injEq, Prod.mk.injEq] at h
        exact ⟨c, hc, by rw [h.2], h.1.symm⟩
      · simp at h
    · rintro ⟨d, hd, he, rfl⟩
      obtain ⟨rfl, rfl⟩ := List.cons.inj he
      rw [if_pos hd]

/-! ## What is read -/

/-- Whether a step may take a character. -/
def takes : Step → Char → Bool
  | blank, c => isBlank c
  | exactly s, c => c ∈ s
  | maybe d, c => c = d
  | oneOf words, c => words.any fun w => c ∈ w
  | character p, c => p c
  | symbol, c => c = '\\' || isLower c || isAsciiLetter c
  | followedBy p, c => isBlank c || p c

theorem readSymbol_eq {s w r : Text} (h : readSymbol s = some (w, r)) : s = w ++ r ∧ ∀ c ∈ w, symbol.takes c = true := by
  cases s with
  | nil => simp [readSymbol] at h
  | cons c s =>
    by_cases hc : c = '\\'
    · subst hc
      rw [readSymbol] at h
      split at h
      · simp at h
      · simp only [Option.some.injEq, Prod.mk.injEq] at h
        obtain ⟨rfl, rfl⟩ := h
        refine ⟨by rw [List.cons_append, List.takeWhile_append_dropWhile], fun d hd => ?_⟩
        rcases List.mem_cons.1 hd with rfl | hd
        · rfl
        · have := List.all_takeWhile (p := isLower) (l := s)
          simp [takes, List.all_eq_true.1 this d hd]
    · rw [readSymbol] at h
      · split at h
        · next hl =>
          simp only [Option.some.injEq, Prod.mk.injEq] at h
          obtain ⟨rfl, rfl⟩ := h
          refine ⟨rfl, fun d hd => ?_⟩
          rw [List.mem_singleton.1 hd]
          simp [takes, hl]
        · simp at h
      · exact hc

theorem read_eq {step : Step} {s r : Text} {kept : List Text} (h : step.read s = some (kept, r)) :
    ∃ w, s = w ++ r ∧ ∀ c ∈ w, step.takes c = true := by
  cases step with
  | blank =>
    simp only [read, Option.some.injEq, Prod.mk.injEq] at h
    refine ⟨s.takeWhile isBlank, ?_, List.all_eq_true.1 List.all_takeWhile⟩
    rw [← h.2, trimStart, List.takeWhile_append_dropWhile]
  | exactly lead =>
    obtain ⟨-, rfl⟩ := read_exactly.1 h
    exact ⟨lead, rfl, fun c hc => by simpa [takes] using hc⟩
  | maybe d =>
    rw [read_maybe, Option.some.injEq, Prod.mk.injEq] at h
    by_cases hd : s.head? = some d
    · obtain ⟨t, rfl⟩ := List.head?_eq_some_iff.1 hd
      rw [skip_cons_self] at h
      exact ⟨[d], by rw [← h.2]; rfl, by simp [takes]⟩
    · rw [skip_of_ne hd] at h
      exact ⟨[], h.2, by simp⟩
  | oneOf words =>
    obtain ⟨w, hw, h⟩ := List.exists_of_findSome?_eq_some h
    simp only [Option.map_eq_some_iff, Prod.mk.injEq] at h
    obtain ⟨r', hr, -, rfl⟩ := h
    exact ⟨w, after?_eq_some.1 hr, fun c hc => List.any_eq_true.2 ⟨w, hw, decide_eq_true hc⟩⟩
  | character p =>
    obtain ⟨c, hc, rfl, -⟩ := read_character.1 h
    exact ⟨[c], rfl, by simpa [takes] using hc⟩
  | symbol =>
    simp only [read, Option.map_eq_some_iff, Prod.mk.injEq, Prod.exists] at h
    obtain ⟨w, r', hs, -, rfl⟩ := h
    exact ⟨w, readSymbol_eq hs⟩
  | followedBy p =>
    have htrim : s = s.takeWhile isBlank ++ trimStart s := List.takeWhile_append_dropWhile.symm
    rw [read] at h
    split at h
    · next c t ht =>
      split at h
      · next hc =>
        simp only [Option.some.injEq, Prod.mk.injEq] at h
        refine ⟨s.takeWhile isBlank ++ [c], ?_, fun d hd => ?_⟩
        · rw [← h.2, List.append_assoc, List.singleton_append, ← ht]
          exact htrim
        · rcases List.mem_append.1 hd with hd | hd
          · have := List.all_takeWhile (p := isBlank) (l := s)
            simp [takes, List.all_eq_true.1 this d hd]
          · simp [takes, List.mem_singleton.1 hd, hc]
      · simp only [Option.some.injEq, Prod.mk.injEq] at h
        exact ⟨[], h.2, by simp⟩
    · simp only [Option.some.injEq, Prod.mk.injEq] at h
      exact ⟨[], h.2, by simp⟩

theorem readAll_cons {step : Step} {more : List Step} {s r : Text} {kept : List Text} :
    readAll (step :: more) s = some (kept, r) ↔
      ∃ k s' k', step.read s = some (k, s') ∧ readAll more s' = some (k', r) ∧ kept = k ++ k' := by
  simp only [readAll, Option.bind_eq_bind, Option.bind_eq_some_iff, Prod.exists, Option.pure_def, Option.some.injEq,
    Prod.mk.injEq]
  constructor
  · rintro ⟨k, s', hs, k', r', hr, rfl, rfl⟩
    exact ⟨k, s', k', hs, hr, rfl⟩
  · rintro ⟨k, s', k', hs, hr, rfl⟩
    exact ⟨k, s', hs, k', r, hr, rfl, rfl⟩

theorem readAll_append {steps more : List Step} {s r : Text} {kept : List Text} :
    readAll (steps ++ more) s = some (kept, r) ↔
      ∃ k s' k', readAll steps s = some (k, s') ∧ readAll more s' = some (k', r) ∧ kept = k ++ k' := by
  induction steps generalizing s kept with
  | nil =>
    rw [List.nil_append]
    constructor
    · exact fun h => ⟨[], s, kept, rfl, h, rfl⟩
    · rintro ⟨k, s', k', hs, hr, rfl⟩
      obtain ⟨rfl, rfl⟩ := Prod.mk.inj (Option.some.inj hs)
      exact hr
  | cons step steps ih =>
    rw [List.cons_append, readAll_cons]
    constructor
    · rintro ⟨k, s', k', hs, hr, rfl⟩
      obtain ⟨k1, s1, k2, hs1, hr1, rfl⟩ := ih.1 hr
      exact ⟨k ++ k1, s1, k2, readAll_cons.2 ⟨k, s', k1, hs, hs1, rfl⟩, hr1, (List.append_assoc _ _ _).symm⟩
    · rintro ⟨k, s1, k2, hs, hr, rfl⟩
      obtain ⟨k1, s', k1', hs', hr', rfl⟩ := readAll_cons.1 hs
      exact ⟨k1, s', k1' ++ k2, hs', ih.2 ⟨k1', s1, k2, hr', hr, rfl⟩, List.append_assoc _ _ _⟩

/-- **A pattern reads a stretch** of characters that its steps take. -/
theorem readAll_eq {steps : List Step} {s r : Text} {kept : List Text} (h : readAll steps s = some (kept, r)) :
    ∃ w, s = w ++ r ∧ ∀ c ∈ w, ∃ step ∈ steps, step.takes c = true := by
  induction steps generalizing s kept with
  | nil =>
    obtain ⟨-, rfl⟩ := Prod.mk.inj (Option.some.inj h)
    exact ⟨[], rfl, by simp⟩
  | cons step steps ih =>
    obtain ⟨k, s', k', hs, hr, -⟩ := readAll_cons.1 h
    obtain ⟨w, rfl, hw⟩ := read_eq hs
    obtain ⟨w', rfl, hw'⟩ := ih hr
    refine ⟨w ++ w', (List.append_assoc _ _ _).symm, fun c hc => ?_⟩
    rcases List.mem_append.1 hc with hc | hc
    · exact ⟨step, List.mem_cons_self, hw c hc⟩
    · obtain ⟨step', hm, ht⟩ := hw' c hc
      exact ⟨step', List.mem_cons_of_mem _ hm, ht⟩

/-- Whether a step is the reading of one character. -/
def isCharacter : Step → Bool
  | character _ => true
  | _ => false

/-! ## Texts that are read in the same way -/

/-- A step that asks for characters in `needed` and passes over those in `optional`. -/
def Asks (needed optional : Char → Prop) : Step → Prop
  | blank => True
  | exactly s => ∀ c ∈ s, needed c
  | maybe c => optional c
  | character p => ∀ c, p c = true → needed c
  | _ => False

/-- Such a pattern keeps one character for each that it reads as such. -/
theorem kept_of_readAll {needed optional : Char → Prop} {q : Char → Bool} {steps : List Step}
    (hsteps : ∀ step ∈ steps, step.Asks needed optional) (hq : ∀ p, character p ∈ steps → p = q) {s r : Text}
    {kept : List Text} (h : readAll steps s = some (kept, r)) :
    ∃ cs : Text, kept = cs.map ([·]) ∧ (∀ c ∈ cs, q c = true) ∧ cs.length = (steps.filter isCharacter).length := by
  induction steps generalizing s kept with
  | nil =>
    obtain ⟨rfl, -⟩ := Prod.mk.inj (Option.some.inj h)
    exact ⟨[], rfl, by simp, rfl⟩
  | cons step steps ih =>
    obtain ⟨k, s', k', hs, hr, rfl⟩ := readAll_cons.1 h
    obtain ⟨cs, rfl, hcs, hlen⟩ := ih (fun p hp => hsteps p (List.mem_cons_of_mem _ hp))
      (fun p hp => hq p (List.mem_cons_of_mem _ hp)) hr
    cases step with
    | blank =>
      obtain ⟨rfl, -⟩ := Prod.mk.inj (Option.some.inj hs)
      exact ⟨cs, rfl, hcs, hlen⟩
    | exactly lead =>
      obtain ⟨rfl, -⟩ := read_exactly.1 hs
      exact ⟨cs, rfl, hcs, hlen⟩
    | maybe c =>
      obtain ⟨rfl, -⟩ := Prod.mk.inj (Option.some.inj hs)
      exact ⟨cs, rfl, hcs, hlen⟩
    | character p =>
      obtain ⟨c, hc, -, rfl⟩ := read_character.1 hs
      have hpq := hq p List.mem_cons_self
      refine ⟨c :: cs, rfl, fun d hd => ?_, by rw [List.length_cons, hlen]; rfl⟩
      rcases List.mem_cons.1 hd with rfl | hd
      · rwa [← hpq]
      · exact hcs d hd
    | oneOf _ => exact (hsteps _ List.mem_cons_self).elim
    | symbol => exact (hsteps _ List.mem_cons_self).elim
    | followedBy _ => exact (hsteps _ List.mem_cons_self).elim

/-- A relation between texts that lasts while one of them is read: what is needed in the second is
there in the first, and what is optional is passed over in both. -/
structure Mirror (needed optional : Char → Prop) (R : Text → Text → Prop) : Prop where
  needed : ∀ {c s s'}, R s (c :: s') → needed c → ∃ t, s = c :: t ∧ R t s'
  blank : ∀ {s s'}, R s s' → R (trimStart s) (trimStart s')
  optional : ∀ {c s s'}, R s s' → optional c → R (skip c s) (skip c s')

namespace Mirror

variable {needed optional : Char → Prop} {R : Text → Text → Prop}

theorem read (hm : Mirror needed optional R) {step : Step} (hstep : step.Asks needed optional) {s s' r' : Text}
    {kept : List Text} (hR : R s s') (h : step.read s' = some (kept, r')) :
    ∃ r, step.read s = some (kept, r) ∧ R r r' := by
  cases step with
  | blank =>
    obtain ⟨rfl, rfl⟩ := Prod.mk.inj (Option.some.inj h)
    exact ⟨trimStart s, rfl, hm.blank hR⟩
  | exactly lead =>
    obtain ⟨rfl, rfl⟩ := read_exactly.1 h
    suffices hs : ∃ r, s = lead ++ r ∧ R r r' by
      obtain ⟨r, hs, hr⟩ := hs
      exact ⟨r, read_exactly.2 ⟨rfl, hs⟩, hr⟩
    clear h
    induction lead generalizing s with
    | nil => exact ⟨s, rfl, hR⟩
    | cons c lead ih =>
      obtain ⟨t, rfl, ht⟩ := hm.needed hR (hstep c List.mem_cons_self)
      obtain ⟨r, rfl, hr⟩ := ih (fun d hd => hstep d (List.mem_cons_of_mem _ hd)) ht
      exact ⟨r, rfl, hr⟩
  | maybe c =>
    rw [read_maybe] at h
    obtain ⟨rfl, rfl⟩ := Prod.mk.inj (Option.some.inj h)
    exact ⟨skip c s, read_maybe c s, hm.optional hR hstep⟩
  | character p =>
    obtain ⟨c, hc, rfl, rfl⟩ := read_character.1 h
    obtain ⟨t, rfl, ht⟩ := hm.needed hR (hstep c hc)
    exact ⟨t, read_character.2 ⟨c, hc, rfl, rfl⟩, ht⟩
  | oneOf _ => exact hstep.elim
  | symbol => exact hstep.elim
  | followedBy _ => exact hstep.elim

/-- **What is read in one of the texts is read in the other.** -/
theorem readAll (hm : Mirror needed optional R) {steps : List Step} (hsteps : ∀ step ∈ steps, step.Asks needed optional)
    {s s' r' : Text} {kept : List Text} (hR : R s s') (h : Step.readAll steps s' = some (kept, r')) :
    ∃ r, Step.readAll steps s = some (kept, r) ∧ R r r' := by
  induction steps generalizing s s' kept with
  | nil =>
    obtain ⟨rfl, rfl⟩ := Prod.mk.inj (Option.some.inj h)
    exact ⟨s, rfl, hR⟩
  | cons step steps ih =>
    obtain ⟨k, t', k', hs, hr, rfl⟩ := readAll_cons.1 h
    obtain ⟨t, ht, hRt⟩ := hm.read (hsteps step List.mem_cons_self) hR hs
    obtain ⟨r, hr, hRr⟩ := ih (fun p hp => hsteps p (List.mem_cons_of_mem _ hp)) hRt hr
    exact ⟨r, readAll_cons.2 ⟨k, t, k', ht, hr, rfl⟩, hRr⟩

end Mirror

end Step

/-! ## Texts that agree up to a character -/

/-- Two texts that are the same, or are so up to the same occurrence of `x`. -/
def Twin (x : Char) (s s' : Text) : Prop := s = s' ∨ ∃ u y y', s = u ++ x :: y ∧ s' = u ++ x :: y'

namespace Twin

variable {x c : Char} {s s' : Text}

theorem append (h : Twin x s s') (v : Text) : Twin x (v ++ s) (v ++ s') := by
  rcases h with rfl | ⟨u, y, y', rfl, rfl⟩
  · exact .inl rfl
  · exact .inr ⟨v ++ u, y, y', by simp, by simp⟩

theorem head?_eq (h : Twin x s s') : s.head? = s'.head? := by
  rcases h with rfl | ⟨u, y, y', rfl, rfl⟩
  · rfl
  · cases u <;> rfl

theorem of_cons (h : Twin x s (c :: s')) (hc : c ≠ x) : ∃ t, s = c :: t ∧ Twin x t s' := by
  rcases h with rfl | ⟨u, y, y', rfl, he⟩
  · exact ⟨s', rfl, .inl rfl⟩
  · cases u with
    | nil => exact absurd (List.cons.inj he).1 hc
    | cons d u =>
      obtain ⟨rfl, rfl⟩ := List.cons.inj he
      exact ⟨u ++ x :: y, rfl, .inr ⟨u, y, y', rfl, rfl⟩⟩

theorem endsWord_eq (h : Twin x s s') : endsWord s = endsWord s' := by
  have he := h.head?_eq
  cases s <;> cases s' <;> simp_all [endsWord]

theorem trimStart (h : Twin x s s') (hx : isBlank x = false) :
    Twin x (Text.trimStart s) (Text.trimStart s') := by
  rcases h with rfl | ⟨u, y, y', rfl, rfl⟩
  · exact .inl rfl
  · have key : ∀ y, Text.trimStart (u ++ x :: y) = Text.trimStart u ++ x :: y := by
      intro y
      induction u with
      | nil => simp [Text.trimStart, hx]
      | cons d u ih =>
        rw [Text.trimStart, Text.trimStart, List.cons_append, List.dropWhile_cons, List.dropWhile_cons]
        split
        · exact ih
        · rfl
    exact .inr ⟨_, y, y', key y, key y'⟩

theorem skip (h : Twin x s s') (hc : c ≠ x) : Twin x (Text.skip c s) (Text.skip c s') := by
  have he := h.head?_eq
  by_cases hs : s'.head? = some c
  · obtain ⟨t', rfl⟩ := List.head?_eq_some_iff.1 hs
    obtain ⟨t, rfl, ht⟩ := of_cons h hc
    rw [Text.skip_cons_self, Text.skip_cons_self]
    exact ht
  · rw [Text.skip_of_ne hs, Text.skip_of_ne (he ▸ hs)]
    exact h

/-- A pattern that does not ask for `x` reads both in the same way. -/
theorem mirror {needed optional : Char → Prop} (hn : ¬needed x) (ho : ¬optional x) (hx : isBlank x = false) :
    Step.Mirror needed optional (Twin x) where
  needed h hc := h.of_cons fun he => hn (he ▸ hc)
  blank h := h.trimStart hx
  optional h hc := h.skip fun he => ho (he ▸ hc)

end Twin

end Coursebook.Text
