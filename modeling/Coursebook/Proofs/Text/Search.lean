/-
The searches of `Coursebook.Text.Basic` in the words of the list library: a
lead is a prefix (`after?_isSome_iff`), a needle that can be cut at is an
infix (`contains_iff`), and a text without the needle is not changed by a
replacement (`replace_eq_self`).
-/
import Coursebook.Text.Basic

namespace Coursebook.Text

theorem after?_append (lead r : Text) : after? lead (lead ++ r) = some r := after?_eq_some.2 rfl

/-- A character that is not in the lead ends what the lead is compared with. -/
theorem after?_append_cons {lead : Text} {c : Char} (hc : c ∉ lead) (s t : Text) :
    after? lead (s ++ c :: t) = (after? lead s).map (· ++ c :: t) := by
  induction lead generalizing s with
  | nil => rfl
  | cons a lead ih =>
    obtain ⟨ha, hlead⟩ := not_or.1 (mt List.mem_cons.2 hc)
    cases s with
    | nil => simp [after?, Ne.symm ha]
    | cons b s =>
      rw [List.cons_append, after?, after?]
      split
      · exact ih hlead s
      · rfl

theorem after?_isSome_iff {lead s : Text} : (after? lead s).isSome ↔ lead <+: s := by
  rw [Option.isSome_iff_exists]
  constructor
  · rintro ⟨r, hr⟩
    exact ⟨r, (after?_eq_some.1 hr).symm⟩
  · rintro ⟨r, hr⟩
    exact ⟨r, after?_eq_some.2 hr.symm⟩

theorem startsWith_iff {lead s : Text} : startsWith lead s = true ↔ lead <+: s := after?_isSome_iff

theorem after?_eq_none_iff {lead s : Text} : after? lead s = none ↔ ¬lead <+: s := by
  rw [← after?_isSome_iff, Option.not_isSome_iff_eq_none]

theorem cut?_isSome_iff {needle s : Text} : (cut? needle s).isSome ↔ needle <:+: s := by
  induction s with
  | nil =>
    by_cases hn : needle = []
    · simp [cut?, hn]
    · simp [cut?, hn]
  | cons c s ih =>
    rw [List.infix_cons_iff, ← ih, ← after?_isSome_iff, cut?]
    split
    · next r hr => simp [hr]
    · next hr => simp [hr]

theorem cut?_eq_none_iff {needle s : Text} : cut? needle s = none ↔ ¬needle <:+: s := by
  rw [← cut?_isSome_iff, Option.not_isSome_iff_eq_none]

theorem contains_iff {needle s : Text} : contains needle s = true ↔ needle <:+: s := cut?_isSome_iff

/-- The cut is at the needle if the needle cannot start any earlier. -/
theorem cut?_append {needle a r : Text} (h : ∀ b, b ≠ [] → b <:+ a → ¬needle <+: b ++ needle ++ r) :
    cut? needle (a ++ needle ++ r) = some (a, r) := by
  induction a with
  | nil =>
    cases needle with
    | nil => cases r <;> simp [cut?, after?]
    | cons d needle =>
      show cut? (d :: needle) (d :: (needle ++ r)) = some ([], r)
      have := after?_append (d :: needle) r
      rw [List.cons_append] at this
      simp [cut?, this]
  | cons c a ih =>
    have hc := h (c :: a) (by simp) List.suffix_rfl
    rw [List.cons_append, List.cons_append] at hc ⊢
    rw [cut?, after?_eq_none_iff.2 hc]
    rw [ih fun b hb hs => h b hb (hs.trans (List.suffix_cons c a))]
    rfl

theorem cut?_self_append (needle r : Text) : cut? needle (needle ++ r) = some ([], r) :=
  cut?_append fun _ hb hs => absurd (List.suffix_nil.1 hs) hb

/-- No needle starts in a text without the first character of the needle. -/
theorem cut?_append_of_not_mem {c : Char} {needle a : Text} (h : c ∉ a) (s : Text) :
    cut? (c :: needle) (a ++ s) = (cut? (c :: needle) s).map fun (before, r) => (a ++ before, r) := by
  induction a with
  | nil => simp
  | cons d a ih =>
    rw [List.mem_cons, not_or] at h
    have hnone : after? (c :: needle) (d :: (a ++ s)) = none := by simp [after?, h.1]
    rw [List.cons_append, cut?, hnone, ih h.2]
    cases cut? (c :: needle) s <;> rfl

/-- The cut at a character is at its first occurrence. -/
theorem cut?_singleton {c : Char} {a : Text} (h : c ∉ a) (r : Text) : cut? [c] (a ++ c :: r) = some (a, r) := by
  have hcut : cut? [c] (a ++ [c] ++ r) = some (a, r) := by
    refine cut?_append fun b hb hs hp => ?_
    cases b with
    | nil => exact hb rfl
    | cons d b =>
      rw [List.cons_append, List.cons_append, List.cons_prefix_cons] at hp
      exact h (hp.1 ▸ hs.subset List.mem_cons_self)
  rwa [List.append_assoc, List.singleton_append] at hcut

/-- A text without one of its characters has no needle in it. -/
theorem cut?_eq_none_of_not_mem {needle s : Text} {c : Char} (hc : c ∈ needle) (hs : c ∉ s) : cut? needle s = none :=
  cut?_eq_none_iff.2 fun h => hs (h.subset hc)

/-- A character that is not in the needle keeps two texts apart: without the needle in the first one, the
cut is that of the second. -/
theorem cut?_append_cons {needle s : Text} {c : Char} (hc : c ∉ needle) (hs : cut? needle s = none) (t : Text) :
    cut? needle (s ++ c :: t) = (cut? needle t).map fun (before, r) => (s ++ c :: before, r) := by
  induction s with
  | nil =>
    have hne : needle ≠ [] := by simpa [cut?] using hs
    have hnone : after? needle (c :: t) = none := by
      obtain ⟨a, needle, rfl⟩ := List.exists_cons_of_ne_nil hne
      exact after?_append_cons hc [] t
    rw [List.nil_append, cut?, hnone]
    rfl
  | cons b s ih =>
    rw [cut?] at hs
    split at hs
    · cases hs
    · next hnone =>
      have happend : after? needle (b :: (s ++ c :: t)) = none := by
        rw [← List.cons_append, after?_append_cons hc, hnone]
        rfl
      rw [List.cons_append, cut?, happend]
      simp only
      rw [ih (Option.map_eq_none_iff.1 hs)]
      cases cut? needle t <;> rfl

theorem infix_append_cons {needle : Text} {c : Char} (hc : c ∉ needle) (s t : Text) :
    needle <:+: s ++ c :: t ↔ needle <:+: s ∨ needle <:+: t := by
  constructor
  · intro h
    by_cases hs : needle <:+: s
    · exact .inl hs
    · rw [← cut?_isSome_iff, cut?_append_cons hc (cut?_eq_none_iff.2 hs), Option.isSome_map, cut?_isSome_iff] at h
      exact .inr h
  · rintro (h | h)
    · exact h.trans (List.prefix_append s _).isInfix
    · exact h.trans ((List.suffix_cons c t).trans (List.suffix_append s _)).isInfix

/-- The cut is at the first occurrence: there is none in front of it. -/
theorem not_infix_of_cut? {needle s before r : Text} (hne : needle ≠ []) (h : cut? needle s = some (before, r)) :
    ¬needle <:+: before := by
  induction s generalizing before with
  | nil => simp [cut?, hne] at h
  | cons c s ih =>
    have hs := eq_of_cut? h
    rw [cut?] at h
    split at h
    · cases h
      rwa [List.infix_nil]
    · next hnone =>
      obtain ⟨⟨before, r'⟩, hcut, heq⟩ := Option.map_eq_some_iff.1 h
      cases heq
      rw [List.infix_cons_iff, not_or]
      refine ⟨fun hp => ?_, ih hcut⟩
      rw [hs, List.append_assoc] at hnone
      exact after?_eq_none_iff.1 hnone (hp.trans (List.prefix_append _ _))

/-! ## Reading up to a character -/

/-- A stretch up to the character that closes it. -/
theorem closed_iff {p : Char → Bool} {close : Char} (hclose : p close = false) {s w r : Text} :
    s.dropWhile p = close :: r ∧ s.takeWhile p = w ↔ s = w ++ close :: r ∧ ∀ c ∈ w, p c = true := by
  constructor
  · rintro ⟨hdrop, rfl⟩
    refine ⟨?_, List.all_eq_true.1 List.all_takeWhile⟩
    rw [← hdrop, List.takeWhile_append_dropWhile]
  · rintro ⟨rfl, hw⟩
    have hstop : ¬p close = true := by simp [hclose]
    rw [List.dropWhile_append_of_pos hw, List.takeWhile_append_of_pos hw, List.dropWhile_cons_of_neg hstop,
      List.takeWhile_cons_of_neg hstop, List.append_nil]
    exact ⟨rfl, rfl⟩

/-! ## Replacing -/

theorem replaceMatches_none {match? : Text → Option (Text × Text)} {c : Char} {s : Text}
    (h : match? (c :: s) = none) : replaceMatches match? (c :: s) = c :: replaceMatches match? s := by
  rw [replaceMatches]
  simp [h]

theorem replaceMatches_some {match? : Text → Option (Text × Text)} {c : Char} {s out r : Text}
    (h : match? (c :: s) = some (out, r)) (hr : r.length ≤ s.length) :
    replaceMatches match? (c :: s) = out ++ replaceMatches match? r := by
  rw [replaceMatches]
  simp [h, hr]

/-- Replacing goes from left to right: a character that starts no match stays, and a match is exchanged. -/
theorem replaceMatches_induct {match? : Text → Option (Text × Text)} {Q : Text → Text → Prop} (nil : Q [] [])
    (keep : ∀ {c s}, match? (c :: s) = none → Q s (replaceMatches match? s) →
      Q (c :: s) (c :: replaceMatches match? s))
    (exchange : ∀ {c s out r}, match? (c :: s) = some (out, r) → Q r (replaceMatches match? r) →
      Q (c :: s) (out ++ replaceMatches match? r))
    (shorter : ∀ {c s out r}, match? (c :: s) = some (out, r) → r.length ≤ s.length) (s : Text) :
    Q s (replaceMatches match? s) := by
  induction hn : s.length using Nat.strongRecOn generalizing s with
  | ind n ih =>
  cases s with
  | nil =>
    rw [replaceMatches]
    exact nil
  | cons c s =>
    rw [List.length_cons] at hn
    cases h : match? (c :: s) with
    | none =>
      rw [replaceMatches_none h]
      exact keep h (ih s.length (by omega) s rfl)
    | some p =>
      obtain ⟨out, r⟩ := p
      have hr := shorter h
      rw [replaceMatches_some h hr]
      exact exchange h (ih r.length (by omega) r rfl)

theorem replaceMatches_eq_self {match? : Text → Option (Text × Text)} {s : Text}
    (h : ∀ t, t <:+ s → match? t = none) : replaceMatches match? s = s := by
  induction s with
  | nil => simp [replaceMatches]
  | cons c s ih =>
    rw [replaceMatches_none (h _ List.suffix_rfl), ih fun t ht => h t (ht.trans (List.suffix_cons c s))]

/-- What follows a match is shorter than what it was found in. -/
theorem length_of_match {c : Char} {s m r : Text} (hs : c :: s = m ++ r) (hm : 0 < m.length) : r.length ≤ s.length := by
  have hlength := congrArg List.length hs
  rw [List.length_cons, List.length_append] at hlength
  omega

theorem length_of_replacement {needle out : Text} (hne : needle ≠ []) {c : Char} {s out' r : Text}
    (h : ((after? needle (c :: s)).map fun r => (out, r)) = some (out', r)) : r.length ≤ s.length := by
  obtain ⟨r', hr, heq⟩ := Option.map_eq_some_iff.1 h
  cases heq
  exact length_of_match (after?_eq_some.1 hr) (List.length_pos_iff.2 hne)

/-- The needle itself is replaced as a whole. -/
theorem replace_self {needle : Text} (hne : needle ≠ []) (out : Text) : replace needle out needle = out := by
  obtain ⟨c, needle, rfl⟩ := List.exists_cons_of_ne_nil hne
  have hafter : after? (c :: needle) (c :: needle) = some [] := by simpa using after?_append (c :: needle) []
  have hrest : replace (c :: needle) out [] = [] := by rw [replace, replaceMatches]
  rw [replace, replaceMatches_some (Option.map_eq_some_iff.2 ⟨[], hafter, rfl⟩) (Nat.zero_le _)]
  exact (congrArg (out ++ ·) hrest).trans (List.append_nil out)

theorem replace_eq_self {needle out s : Text} (h : ¬needle <:+: s) : replace needle out s = s := by
  refine replaceMatches_eq_self fun t ht => ?_
  rw [Option.map_eq_none_iff, after?_eq_none_iff]
  exact fun hp => h (hp.isInfix.trans ht.isInfix)

/-- A character that is not in the needle keeps two texts apart: each is replaced in on its own. -/
theorem replace_append_cons {needle : Text} {c : Char} (hne : needle ≠ []) (hc : c ∉ needle) (out s t : Text) :
    replace needle out (s ++ c :: t) = replace needle out s ++ c :: replace needle out t := by
  have hafter := after?_append_cons hc
  refine replaceMatches_induct (Q := fun s s' => replace needle out (s ++ c :: t) = s' ++ c :: replace needle out t)
    ?_ ?_ ?_ (length_of_replacement hne) s
  · have hnone : after? needle (c :: t) = none := by
      obtain ⟨a, needle, rfl⟩ := List.exists_cons_of_ne_nil hne
      exact hafter [] t
    exact replaceMatches_none (Option.map_eq_none_iff.2 hnone)
  · intro d s hnone ih
    have hnone : after? needle (d :: s) = none := Option.map_eq_none_iff.1 hnone
    have happend : after? needle (d :: (s ++ c :: t)) = none := by
      rw [← List.cons_append, hafter, hnone]
      rfl
    exact (replaceMatches_none (Option.map_eq_none_iff.2 happend)).trans (congrArg (d :: ·) ih)
  · intro d s out' r h ih
    obtain ⟨r', hr, heq⟩ := Option.map_eq_some_iff.1 h
    cases heq
    have happend : after? needle (d :: (s ++ c :: t)) = some (r ++ c :: t) := by
      rw [← List.cons_append, hafter, hr]
      rfl
    have hlength : (r ++ c :: t).length ≤ (s ++ c :: t).length := by
      have := length_of_replacement hne h
      simp only [List.length_append]
      omega
    rw [List.cons_append, List.append_assoc, ← ih]
    exact replaceMatches_some (Option.map_eq_some_iff.2 ⟨_, happend, rfl⟩) hlength

/-- A character behind a replacement was there before, or stands in what was put in. -/
theorem mem_replace {needle out s : Text} (hne : needle ≠ []) {c : Char} (h : c ∈ replace needle out s) : c ∈ out ∨ c ∈ s := by
  refine replaceMatches_induct (Q := fun s s' => c ∈ s' → c ∈ out ∨ c ∈ s) ?_ ?_ ?_ (length_of_replacement hne) s h
  · exact .inr
  · intro d s _ ih hmem
    rcases List.mem_cons.1 hmem with rfl | hmem
    · exact .inr List.mem_cons_self
    · exact (ih hmem).imp_right (List.mem_cons_of_mem d)
  · intro d s out' r h ih hmem
    obtain ⟨r', hr, heq⟩ := Option.map_eq_some_iff.1 h
    cases heq
    rcases List.mem_append.1 hmem with hmem | hmem
    · exact .inl hmem
    · rw [after?_eq_some.1 hr]
      exact (ih hmem).imp_right (List.mem_append_right needle)

/-- A replacement takes a character away if only what it looks for has it. -/
theorem count_replace {needle out : Text} {c : Char} (hneedle : c ∈ needle) (hout : c ∉ out) (s : Text) :
    (replace needle out s).count c ≤ s.count c ∧ (needle <:+: s → (replace needle out s).count c < s.count c) := by
  have hne : needle ≠ [] := List.ne_nil_of_mem hneedle
  refine replaceMatches_induct (Q := fun s s' => s'.count c ≤ s.count c ∧ (needle <:+: s → s'.count c < s.count c))
    ?_ ?_ ?_ (length_of_replacement hne) s
  · exact ⟨Nat.le_refl _, fun h => absurd (List.infix_nil.1 h) hne⟩
  · intro d s h ih
    have hinfix : needle <:+: d :: s ↔ needle <:+: s := by
      rw [List.infix_cons_iff, or_iff_right (after?_eq_none_iff.1 (Option.map_eq_none_iff.1 h))]
    rw [List.count_cons, List.count_cons, hinfix]
    exact ⟨Nat.add_le_add_right ih.1 _, fun h => Nat.add_lt_add_right (ih.2 h) _⟩
  · intro d s out' r h ih
    obtain ⟨r', hr, heq⟩ := Option.map_eq_some_iff.1 h
    cases heq
    have hpos : 0 < needle.count c := List.count_pos_iff.2 hneedle
    have hlt : (out ++ replaceMatches (fun s => (after? needle s).map fun r => (out, r)) r).count c < (d :: s).count c := by
      rw [after?_eq_some.1 hr, List.count_append, List.count_append, List.count_eq_zero_of_not_mem hout]
      have := ih.1
      omega
    exact ⟨Nat.le_of_lt hlt, fun _ => hlt⟩

/-! ## Finding -/

theorem matchesFrom_none {α : Type} {f : Text → Option (α × Text)} {c : Char} {s : Text} (h : f (c :: s) = none) (pos : Nat) :
    matchesFrom f pos (c :: s) = matchesFrom f (pos + 1) s := by
  rw [matchesFrom, h]

theorem matchesFrom_some {α : Type} {f : Text → Option (α × Text)} {c : Char} {w r : Text} {value : α}
    (h : f (c :: (w ++ r)) = some (value, r)) (a : Text) :
    matchesFrom f a.length (c :: (w ++ r)) =
      ⟨a.length, (a ++ c :: w).length, value⟩ :: matchesFrom f (a ++ c :: w).length r := by
  have hstop : a.length + ((c :: (w ++ r)).length - r.length) = (a ++ c :: w).length := by
    simp only [List.length_cons, List.length_append]
    omega
  have hlen : r.length ≤ (w ++ r).length := by simp
  rw [matchesFrom, h]
  simp only [hlen, dite_true, hstop]

/-- Finding goes from left to right: a character that starts no match is passed over, and behind a match the
search goes on. `a` is what was passed over so far. -/
theorem matchesFrom_induct {α : Type} {f : Text → Option (α × Text)} {Q : Text → Text → List (Match α) → Prop}
    (nil : ∀ a, Q a [] [])
    (skip : ∀ {a c s l}, f (c :: s) = none → Q (a ++ [c]) s l → Q a (c :: s) l)
    (found : ∀ {a c w r value l}, f (c :: (w ++ r)) = some (value, r) → Q (a ++ c :: w) r l →
      Q a (c :: (w ++ r)) (⟨a.length, (a ++ c :: w).length, value⟩ :: l))
    (suffix : ∀ {c s value r}, f (c :: s) = some (value, r) → r <:+ s) (a s : Text) :
    Q a s (matchesFrom f a.length s) := by
  induction hn : s.length using Nat.strongRecOn generalizing s a with
  | ind n ih =>
  cases s with
  | nil =>
    rw [matchesFrom]
    exact nil a
  | cons c s =>
    rw [List.length_cons] at hn
    cases h : f (c :: s) with
    | none =>
      have hrest := ih s.length (by omega) (a ++ [c]) s rfl
      rw [List.length_append, List.length_singleton] at hrest
      rw [matchesFrom_none h]
      exact skip h hrest
    | some p =>
      obtain ⟨value, r⟩ := p
      obtain ⟨w, rfl⟩ := suffix h
      rw [matchesFrom_some h]
      exact found h (ih r.length (by rw [List.length_append] at hn; omega) (a ++ c :: w) r rfl)

/-- The stretch up to a position is what stands in front of it, without what was cut off before. -/
theorem slice_append {a s : Text} {cursor : Nat} (h : cursor ≤ a.length) :
    slice (a ++ s) cursor a.length = a.drop cursor := by
  rw [slice, List.drop_append_of_le_length h, List.take_append_of_le_length (by simp)]
  exact List.take_of_length_le (by simp)

/-- The rule for what is found alone: each match comes with the stretch that it was read from. -/
theorem findAll_induct {α : Type} {f : Text → Option (α × Text)} {Q : Text → List (α × Text) → Prop} (nil : Q [] [])
    (skip : ∀ {c s l}, f (c :: s) = none → Q s l → Q (c :: s) l)
    (found : ∀ {c w r value l}, f (c :: (w ++ r)) = some (value, r) → Q r l →
      Q (c :: (w ++ r)) ((value, c :: w) :: l))
    (suffix : ∀ {c s value r}, f (c :: s) = some (value, r) → r <:+ s) (s : Text) :
    Q s ((findAll f s).map fun m => (m.value, slice s m.start m.stop)) := by
  refine matchesFrom_induct (Q := fun a s l => Q s (l.map fun m => (m.value, slice (a ++ s) m.start m.stop)))
    (fun _ => nil) (fun {a c s l} h hrest => ?_) (fun {a c w r value l} h hrest => ?_) suffix [] s
  · rw [List.append_assoc, List.singleton_append] at hrest
    exact skip h hrest
  · have hslice : slice (a ++ c :: w ++ r) a.length (a ++ c :: w).length = c :: w := by
      rw [slice_append (by simp), List.drop_left]
    rw [List.map_cons, ← List.cons_append, ← List.append_assoc, hslice]
    exact found h hrest

/-! ## Cutting at a separator -/

theorem splitOn_ne_nil (sep s : Text) : splitOn sep s ≠ [] := by
  rw [splitOn]
  split
  · simp
  · split <;> simp

/-- The pieces joined with the separator are the text. -/
theorem eq_of_splitOn {sep s first : Text} {rest : List Text} (h : splitOn sep s = first :: rest) :
    s = first ++ rest.flatMap (sep ++ ·) := by
  fun_induction splitOn sep s generalizing first rest with
  | case1 s hcut =>
    obtain ⟨rfl, rfl⟩ := List.cons.inj h
    simp
  | case2 s before r hcut hsep =>
    obtain ⟨rfl, rfl⟩ := List.cons.inj h
    simp
  | case3 s before r hcut hsep ih =>
    obtain ⟨rfl, rfl⟩ := List.cons.inj h
    obtain ⟨first', rest', h'⟩ := List.exists_cons_of_ne_nil (splitOn_ne_nil sep r)
    rw [eq_of_cut? hcut, h', List.flatMap_cons, ih h']
    simp

theorem not_mem_of_cut?_singleton {c : Char} {s before r : Text} (h : cut? [c] s = some (before, r)) : c ∉ before := by
  induction s generalizing before with
  | nil => simp [cut?] at h
  | cons d s ih =>
    rw [cut?] at h
    split at h
    · cases h
      exact List.not_mem_nil
    · next hnone =>
      obtain ⟨⟨before, r'⟩, hs, heq⟩ := Option.map_eq_some_iff.1 h
      cases heq
      have hd : c ≠ d := fun hcd => by simp [hcd, after?] at hnone
      exact List.not_mem_cons_of_ne_of_not_mem hd (ih hs)

/-- No piece holds the separator. -/
theorem not_infix_of_mem_splitOn {sep s : Text} (hsep : sep ≠ []) : ∀ p ∈ splitOn sep s, ¬sep <:+: p := by
  fun_induction splitOn sep s with
  | case1 s hcut =>
    intro p hp
    rw [List.mem_singleton.1 hp]
    exact cut?_eq_none_iff.1 hcut
  | case2 s before r hcut hnil => exact absurd hnil hsep
  | case3 s before r hcut _ ih =>
    intro p hp
    rcases List.mem_cons.1 hp with rfl | hp
    · exact not_infix_of_cut? hsep hcut
    · exact ih p hp

theorem splitOn_of_not_mem {c : Char} {s : Text} (h : c ∉ s) : splitOn [c] s = [s] := by
  rw [splitOn]
  split
  · rfl
  · next hcut =>
    rw [cut?_eq_none_of_not_mem List.mem_cons_self h] at hcut
    cases hcut

/-- A separator that is one character keeps two texts apart. -/
theorem splitOn_append_cons {c : Char} (s t : Text) : splitOn [c] (s ++ c :: t) = splitOn [c] s ++ splitOn [c] t := by
  have hfirst : ∀ {a : Text}, c ∉ a → ∀ r, splitOn [c] (a ++ c :: r) = a :: splitOn [c] r := by
    intro a ha r
    rw [splitOn]
    split
    · next hcut => rw [cut?_singleton ha] at hcut; cases hcut
    · next hcut =>
      rw [cut?_singleton ha] at hcut
      cases hcut
      rfl
  generalize hsep : [c] = sep
  fun_induction splitOn sep s with
  | case1 s hcut =>
    subst hsep
    have hs : c ∉ s := by
      intro hmem
      obtain ⟨a, r, rfl, ha⟩ := List.eq_append_cons_of_mem hmem
      rw [cut?_singleton ha] at hcut
      cases hcut
    exact hfirst hs t
  | case2 s before r hcut hnil => exact absurd (hsep.trans hnil) (List.cons_ne_nil c [])
  | case3 s before r hcut hne ih =>
    subst hsep
    have hs := eq_of_cut? hcut
    rw [List.append_assoc, List.singleton_append] at hs
    rw [hs, List.append_assoc, List.cons_append, hfirst (not_mem_of_cut?_singleton hcut), ih, List.cons_append]

theorem splitOn_of_cut? {sep s before r : Text} (hsep : sep ≠ []) (h : cut? sep s = some (before, r)) :
    splitOn sep s = before :: splitOn sep r := by
  rw [splitOn]
  split
  · next hnone => simp [hnone] at h
  · next before' r' hcut =>
    rw [h] at hcut
    cases hcut
    exact dif_neg hsep

/-- Pieces without the first character of the separator are read back. -/
theorem splitOn_pieces {c : Char} {sep first : Text} {rest : List Text} (hfirst : c ∉ first)
    (hrest : ∀ p ∈ rest, c ∉ p) :
    splitOn (c :: sep) (first ++ rest.flatMap (c :: sep ++ ·)) = first :: rest := by
  induction rest generalizing first with
  | nil =>
    rw [List.flatMap_nil, List.append_nil, splitOn]
    split
    · rfl
    · next hcut =>
      rw [cut?_eq_none_of_not_mem List.mem_cons_self hfirst] at hcut
      cases hcut
  | cons p rest ih =>
    obtain ⟨hp, hrest⟩ := List.forall_mem_cons.1 hrest
    have hcut : cut? (c :: sep) (first ++ (c :: sep ++ (p ++ rest.flatMap (c :: sep ++ ·)))) =
        some (first, p ++ rest.flatMap (c :: sep ++ ·)) := by
      rw [cut?_append_of_not_mem hfirst, cut?_self_append]
      simp
    rw [List.flatMap_cons, List.append_assoc, splitOn_of_cut? (List.cons_ne_nil c sep) hcut, ih hp hrest]

theorem join_cons_cons (sep l l' : Text) (ls : List Text) : join sep (l :: l' :: ls) = l ++ sep ++ join sep (l' :: ls) := rfl

/-- More pieces at the end only add to what the pieces make up. -/
theorem join_prefix (sep : Text) {ls ms : List Text} (h : ls <+: ms) : join sep ls <+: join sep ms := by
  obtain ⟨more, rfl⟩ := h
  induction ls with
  | nil => exact List.nil_prefix
  | cons l ls ih =>
    cases ls with
    | nil =>
      cases more with
      | nil => exact List.prefix_rfl
      | cons m more =>
        rw [List.singleton_append, join_cons_cons, List.append_assoc]
        exact List.prefix_append l _
    | cons l' ls =>
      rw [List.cons_append, List.cons_append, join_cons_cons, join_cons_cons]
      exact (List.prefix_append_right_inj _).2 ih

theorem join_splitOn (sep s : Text) : join sep (splitOn sep s) = s := by
  fun_induction splitOn sep s with
  | case1 s hcut => rfl
  | case2 s before r hcut hnil => rfl
  | case3 s before r hcut hsep ih =>
    obtain ⟨first, rest, h⟩ := List.exists_cons_of_ne_nil (splitOn_ne_nil sep r)
    rw [h] at ih ⊢
    rw [join_cons_cons, ih, eq_of_cut? hcut]

/-- What holds no separator stands in one of the pieces. -/
theorem infix_join {needle : Text} {c : Char} (hne : needle ≠ []) (hc : c ∉ needle) (ls : List Text) :
    needle <:+: join [c] ls ↔ ∃ l ∈ ls, needle <:+: l := by
  induction ls with
  | nil => simp [join, hne]
  | cons l ls ih =>
    cases ls with
    | nil => simp [join]
    | cons l' ls =>
      rw [join_cons_cons, List.append_assoc, List.singleton_append, infix_append_cons hc, ih]
      simp only [List.mem_cons, exists_eq_or_imp]

/-- Lines are read back. -/
theorem splitOn_join {c : Char} {ls : List Text} (hne : ls ≠ []) (h : ∀ l ∈ ls, c ∉ l) :
    splitOn [c] (join [c] ls) = ls := by
  induction ls with
  | nil => exact absurd rfl hne
  | cons l ls ih =>
    obtain ⟨hl, hls⟩ := List.forall_mem_cons.1 h
    cases ls with
    | nil => exact splitOn_of_not_mem hl
    | cons l' ls =>
      rw [join_cons_cons, List.append_assoc, List.singleton_append, splitOn_append_cons, splitOn_of_not_mem hl,
        ih (List.cons_ne_nil l' ls) hls]
      rfl

end Coursebook.Text
