/-
What each entry of the catalogue reads. `Spells e first words whole head`
says it in words: damage is the character `first` with one of `words`
behind it, at the end of a word if `whole`, and `head` is what was meant in
place of `first`.
-/
import Coursebook.Proofs.Integrity.Rewrite

namespace Coursebook.Corruption

/-- The damage that an entry reads, and what it makes of it. -/
structure Spells (e : Corruption) (first : Char) (words : List Text) (whole : Bool) (head : Text) : Prop where
  sound : ∀ {c s v r}, e.read? (c :: s) = some (v, r) →
    c = first ∧ ∃ w ∈ words, s = w ++ r ∧ v = head ++ w ∧ (whole = true → Text.endsWord r = true)
  complete : ∀ {w r}, w ∈ words → (whole = true → Text.endsWord r = true) →
    (e.read? (first :: (w ++ r))).isSome = true
  inner : ∀ w ∈ words, ∀ t r, t ≠ [] → t <:+ w → e.read? (t ++ r) = none

namespace Spells

variable {e : Corruption} {first : Char} {words : List Text} {whole : Bool} {head : Text}

theorem isLocal (h : Spells e first words whole head) : e.Local head := by
  intro c s v r hr
  obtain ⟨-, w, hw, rfl, rfl, -⟩ := h.sound hr
  exact ⟨w, rfl, rfl, fun t ht hs => h.inner w hw t r ht hs⟩

theorem read?_isSome_iff (h : Spells e first words whole head) {c : Char} {s : Text} :
    (e.read? (c :: s)).isSome = true ↔
      c = first ∧ ∃ w ∈ words, ∃ r, s = w ++ r ∧ (whole = true → Text.endsWord r = true) := by
  constructor
  · intro hs
    obtain ⟨⟨v, r⟩, hr⟩ := Option.isSome_iff_exists.1 hs
    obtain ⟨hc, w, hw, hs, -, hend⟩ := h.sound hr
    exact ⟨hc, w, hw, r, hs, hend⟩
  · rintro ⟨rfl, w, hw, r, rfl, hend⟩
    exact h.complete hw hend

/-- What an entry reads where damage starts. -/
theorem of_starts (h : Spells e first words whole head) {before : Option Char} {c : Char} {s : Text}
    (hs : e.starts before (c :: s) = true) :
    c = first ∧ ∃ w ∈ words, ∃ r, s = w ++ r ∧ (whole = true → Text.endsWord r = true) := by
  rw [starts, Bool.and_eq_true] at hs
  exact h.read?_isSome_iff.1 hs.1

theorem read?_of_ne (h : Spells e first words whole head) {c : Char} (hc : c ≠ first) (s : Text) :
    e.read? (c :: s) = none := by
  cases hr : e.read? (c :: s) with
  | none => rfl
  | some p =>
    obtain ⟨v, r⟩ := p
    exact absurd (h.sound hr).1 hc

theorem starts_of_ne (h : Spells e first words whole head) {c : Char} (hc : c ≠ first) (before : Option Char)
    (s : Text) : e.starts before (c :: s) = false := starts_eq_false (h.read?_of_ne hc s)

end Spells

/-! ## Reading one of several words -/

theorem eq_of_readWord? {whole : Bool} {words : List String} {s w r : Text}
    (h : readWord? whole words s = some (w, r)) :
    w ∈ words.map String.toList ∧ s = w ++ r ∧ (whole = true → Text.endsWord r = true) := by
  obtain ⟨u, hu, h⟩ := List.exists_of_findSome?_eq_some h
  split at h
  · next r' hr =>
    split at h
    · simp at h
    · next hend =>
      simp only [Option.some.injEq, Prod.mk.injEq] at h
      obtain ⟨rfl, rfl⟩ := h
      refine ⟨List.mem_map_of_mem hu, Text.after?_eq_some.1 hr, fun hw => ?_⟩
      simpa [hw] using hend
  · simp at h

theorem readWord?_isSome {whole : Bool} {words : List String} {w r : Text} (hw : w ∈ words.map String.toList)
    (hend : whole = true → Text.endsWord r = true) : (readWord? whole words (w ++ r)).isSome = true := by
  obtain ⟨u, hu, rfl⟩ := List.mem_map.1 hw
  rw [readWord?, List.findSome?_isSome_iff]
  refine ⟨u, hu, ?_⟩
  rw [Text.after?_append]
  cases whole with
  | false => rfl
  | true => simp [hend rfl]

/-! ## The entries -/

theorem replacementCharacter_read? (c : Char) (s : Text) :
    replacementCharacter.read? (c :: s) = if c = '\uFFFD' then some ([], s) else none := by
  unfold replacementCharacter
  dsimp only
  split
  · next h =>
    rw [List.cons.injEq] at h
    rw [if_pos h.1, h.2]
  · next h =>
    rw [if_neg]
    rintro rfl
    exact h s rfl

theorem spells_replacementCharacter : Spells replacementCharacter '\uFFFD' [[]] false [] where
  sound := by
    intro c s v r h
    rw [replacementCharacter_read?] at h
    split at h
    · next hc =>
      simp only [Option.some.injEq, Prod.mk.injEq] at h
      exact ⟨hc, [], List.mem_singleton_self _, h.2, h.1.symm, nofun⟩
    · simp at h
  complete := by
    intro w r hw _
    rw [List.mem_singleton.1 hw, replacementCharacter_read?]
    rfl
  inner := by
    intro w hw t r ht hs
    rw [List.mem_singleton.1 hw, List.suffix_nil] at hs
    exact absurd hs ht

theorem ofControl_read? (name : String) (control letter : Char) (whole : Bool) (words : List String) (c : Char)
    (s : Text) : (ofControl name control letter whole words).read? (c :: s) =
      if c = control then (readWord? whole words s).map fun (w, r) => ('\\' :: letter :: w, r) else none := rfl

theorem spells_ofControl {name : String} {control letter : Char} {whole : Bool} {words : List String}
    (hc : ∀ w ∈ words, control ∉ w.toList) :
    Spells (ofControl name control letter whole words) control (words.map String.toList) whole ['\\', letter] where
  sound := by
    intro c s v r h
    rw [ofControl_read?] at h
    split at h
    · next hcc =>
      simp only [Option.map_eq_some_iff, Prod.mk.injEq, Prod.exists] at h
      obtain ⟨w, r', hr, rfl, rfl⟩ := h
      obtain ⟨hw, hs, hend⟩ := eq_of_readWord? hr
      exact ⟨hcc, w, hw, hs, rfl, hend⟩
    · simp at h
  complete := by
    intro w r hw hend
    rw [ofControl_read?, if_pos rfl, Option.isSome_map]
    exact readWord?_isSome hw hend
  inner := by
    intro w hw t r ht hs
    obtain ⟨u, hu, rfl⟩ := List.mem_map.1 hw
    cases t with
    | nil => exact absurd rfl ht
    | cons d t =>
      have hd : d ≠ control := fun he => hc u hu (he ▸ hs.subset List.mem_cons_self)
      rw [List.cons_append, ofControl_read?, if_neg hd]

theorem bareFraction_read? (s : Text) : bareFraction.read? s =
    (Text.after? ['r', 'a', 'c', '{'] s).map fun r => (['\\', 'f', 'r', 'a', 'c', '{'], r) := rfl

theorem spells_bareFraction : Spells bareFraction 'r' [['a', 'c', '{']] false ['\\', 'f', 'r'] where
  sound := by
    intro c s v r h
    rw [bareFraction_read?] at h
    simp only [Option.map_eq_some_iff, Prod.mk.injEq] at h
    obtain ⟨r', hr, hv, rfl⟩ := h
    have := Text.after?_eq_some.1 hr
    simp only [List.cons_append, List.nil_append, List.cons.injEq] at this
    exact ⟨this.1, _, List.mem_singleton_self _, this.2, hv.symm, nofun⟩
  complete := by
    intro w r hw _
    rw [List.mem_singleton.1 hw, bareFraction_read?, Option.isSome_map, Text.after?_isSome_iff]
    exact List.prefix_append _ r
  inner := by
    intro w hw t r ht hs
    rw [List.mem_singleton.1 hw] at hs
    have hr : 'r' ∉ t := fun hm => absurd (hs.subset hm) (by decide)
    cases t with
    | nil => exact absurd rfl ht
    | cons d t =>
      rw [bareFraction_read?, Option.map_eq_none_iff, Text.after?_eq_none_iff, List.cons_append, List.cons_prefix_cons]
      exact fun hp => hr (hp.1 ▸ List.mem_cons_self)

/-- The control words that stand behind two backslashes. -/
def doubledWords : List String := ["frac", "sqrt", "times", "cdot", "left", "right", "begin", "end"]

theorem doubledBackslash_read? (c d : Char) (s : Text) : doubledBackslash.read? (c :: d :: s) =
    if c = '\\' ∧ d = '\\' then (readWord? true doubledWords s).map fun (w, r) => ('\\' :: w, r) else none := by
  unfold doubledBackslash
  dsimp only
  split
  · next t h =>
    simp only [List.cons.injEq] at h
    rw [if_pos ⟨h.1, h.2.1⟩, h.2.2, doubledWords]
  · next h =>
    rw [if_neg]
    rintro ⟨rfl, rfl⟩
    exact h s rfl

theorem doubledBackslash_read?_single (c : Char) : doubledBackslash.read? [c] = none := by
  unfold doubledBackslash
  dsimp only
  split
  · next h => simp at h
  · rfl

theorem doubledWords_letters : ∀ u ∈ doubledWords, ∀ c ∈ u.toList, Text.isAsciiLetter c = true := by
  have key : ∀ u ∈ doubledWords, u.toList.all Text.isAsciiLetter = true := by decide
  exact fun u hu => List.all_eq_true.1 (key u hu)

theorem doubledWords_spec : ∀ u ∈ doubledWords, '\\' ∉ u.toList ∧ u.toList ≠ [] := by decide

/-- Only one backslash in front of a letter is no damage, nor is a letter. -/
theorem doubledBackslash_inner {u : Text} (hb : '\\' ∉ u) (hu : u ≠ []) {t r : Text} (ht : t ≠ [])
    (hs : t <:+ '\\' :: u) : doubledBackslash.read? (t ++ r) = none := by
  have key : ∀ c d y, c ≠ '\\' ∨ d ≠ '\\' → doubledBackslash.read? (c :: d :: y) = none := fun c d y h => by
    rw [doubledBackslash_read?, if_neg]
    rintro ⟨rfl, rfl⟩
    exact h.elim (fun h => h rfl) fun h => h rfl
  rcases List.suffix_cons_iff.1 hs with rfl | hs
  · obtain ⟨d, u, rfl⟩ := List.exists_cons_of_ne_nil hu
    exact key _ _ _ (.inr fun he => hb (he ▸ List.mem_cons_self))
  · obtain ⟨d, t, rfl⟩ := List.exists_cons_of_ne_nil ht
    have hd : d ≠ '\\' := fun he => hb (he ▸ hs.subset List.mem_cons_self)
    rw [List.cons_append]
    cases t ++ r with
    | nil => exact doubledBackslash_read?_single d
    | cons f y => exact key _ _ _ (.inl hd)

theorem spells_doubledBackslash :
    Spells doubledBackslash '\\' (doubledWords.map fun w => '\\' :: w.toList) true [] where
  sound := by
    intro c s v r h
    cases s with
    | nil => simp [doubledBackslash_read?_single] at h
    | cons d s =>
      rw [doubledBackslash_read?] at h
      split at h
      · next hcd =>
        simp only [Option.map_eq_some_iff, Prod.mk.injEq, Prod.exists] at h
        obtain ⟨w, r', hr, rfl, rfl⟩ := h
        obtain ⟨hw, rfl, hend⟩ := eq_of_readWord? hr
        obtain ⟨u, hu, rfl⟩ := List.mem_map.1 hw
        exact ⟨hcd.1, _, List.mem_map_of_mem hu, by rw [hcd.2]; rfl, rfl, hend⟩
      · simp at h
  complete := by
    intro w r hw hend
    obtain ⟨u, hu, rfl⟩ := List.mem_map.1 hw
    rw [List.cons_append, doubledBackslash_read?, if_pos ⟨rfl, rfl⟩, Option.isSome_map]
    exact readWord?_isSome (List.mem_map_of_mem hu) hend
  inner := by
    intro w hw t r ht hs
    obtain ⟨u, hu, rfl⟩ := List.mem_map.1 hw
    obtain ⟨hb, hne⟩ := doubledWords_spec u hu
    exact doubledBackslash_inner hb hne ht hs

/-! ## Guards -/

theorem replacementCharacter_guard (c : Char) : replacementCharacter.guard c = false := rfl

theorem bareFraction_guard (c : Char) : bareFraction.guard c = (Text.isAsciiLetter c || decide (c = '\\')) := rfl

theorem doubledBackslash_guard (c : Char) : doubledBackslash.guard c = decide (c = '\\') := rfl

end Coursebook.Corruption
