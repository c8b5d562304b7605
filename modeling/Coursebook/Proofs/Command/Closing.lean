/-
The brace that closes an argument, told by the balance of what stands in
front of it. Two readers count braces: one keeps the groups that are open and
stops at the first brace that closes none of them, the other adds up a whole
text. `read?_eq_some_iff` ties them together: as long as no beginning of the
text is out of balance downwards the first reader goes on, and what it knows
then is what the second one counts.

So an argument ends where the balance falls below zero for the first time
(`closing?_balance`).
-/
import Coursebook.Proofs.Command.Balance
import Coursebook.Proofs.Command.Group
import Mathlib.Data.List.Induction

namespace Coursebook.Command

open Text (endsEscaped endsEscaped_concat endsEscaped_iff_odd)
open Groups (read?)

/-! ## One more character -/

/-- What a character that is not escaped adds to the balance. -/
def braceWeight (c : Char) : Int := if c = '{' then 1 else if c = '}' then -1 else 0

theorem braceBalance_singleton (c : Char) : braceBalance [c] = braceWeight c := by
  by_cases h1 : c = '\\'
  · subst h1
    rfl
  by_cases h2 : c = '{'
  · subst h2
    rfl
  by_cases h3 : c = '}'
  · subst h3
    rfl
  rw [braceBalance_cons h1 h2 h3, braceWeight, if_neg h2, if_neg h3]
  rfl

theorem braceBalance_concat (s : Text) (c : Char) :
    braceBalance (s ++ [c]) = braceBalance s + if endsEscaped s then 0 else braceWeight c := by
  cases h : endsEscaped s with
  | true => exact braceBalance_append_cons h c []
  | false => rw [braceBalance_append h, braceBalance_singleton, if_neg Bool.false_ne_true]

theorem Groups.read?_concat (g : Groups) (s : Text) (c : Char) : g.read? (s ++ [c]) = (g.read? s).bind (next? · c) := by
  rw [read?_append]
  refine Option.bind_congr fun k _ => ?_
  rw [read?_cons]
  exact Option.bind_fun_some _

/-- A step of the reader, told by what the character weighs. It fails where the groups would run out. -/
theorem Groups.next?_eq_some_iff {g k : Groups} {c : Char} :
    g.next? c = some k ↔ k.escaped = (decide (c = '\\') && !g.escaped) ∧
      (k.depth : Int) = g.depth + if g.escaped then 0 else braceWeight c := by
  obtain ⟨escaped, depth⟩ := g
  obtain ⟨escaped', depth'⟩ := k
  grind [next?, braceWeight]

/-! ## The reader and the balance -/

/-- A text none of whose beginnings closes more than the `d` groups around it and those that it opens. -/
def StaysInside (d : Nat) (s : Text) : Prop := ∀ p, p <+: s → 0 ≤ d + braceBalance p

theorem StaysInside.nil (d : Nat) : StaysInside d [] := by
  intro p hp
  rw [List.prefix_nil.1 hp, braceBalance, Int.add_zero]
  exact Int.natCast_nonneg d

theorem staysInside_concat {d : Nat} {s : Text} {c : Char} :
    StaysInside d (s ++ [c]) ↔ StaysInside d s ∧ 0 ≤ d + braceBalance (s ++ [c]) := by
  constructor
  · intro h
    exact ⟨fun p hp => h p (hp.trans (List.prefix_append s [c])), h _ List.prefix_rfl⟩
  · rintro ⟨hs, hlast⟩ p hp
    rcases List.prefix_concat_iff.1 hp with rfl | hp
    · exact hlast
    · exact hs p hp

/-- **The reader gets through a text** that stays inside, and then knows what the text counts. -/
theorem read?_eq_some_iff {d : Nat} {s : Text} {g : Groups} :
    read? ⟨false, d⟩ s = some g ↔
      StaysInside d s ∧ g.escaped = endsEscaped s ∧ (g.depth : Int) = d + braceBalance s := by
  -- From the end of the text: the last step is one of the reader and one of both counts.
  induction s using List.reverseRecOn generalizing g with
  | nil =>
    obtain ⟨escaped, depth⟩ := g
    simp [StaysInside.nil, braceBalance]
    omega
  | append_singleton s c ih =>
    rw [Groups.read?_concat, Option.bind_eq_some_iff, staysInside_concat, braceBalance_concat, endsEscaped_concat]
    constructor
    · rintro ⟨k, hread, hnext⟩
      obtain ⟨hinside, hescaped, hdepth⟩ := ih.1 hread
      rw [Groups.next?_eq_some_iff, hescaped, hdepth] at hnext
      exact ⟨⟨hinside, by omega⟩, hnext.1, by omega⟩
    · rintro ⟨⟨hinside, hlast⟩, hescaped, hdepth⟩
      have hnow := hinside s List.prefix_rfl
      obtain ⟨n, hn⟩ := Int.eq_ofNat_of_zero_le hnow
      refine ⟨⟨endsEscaped s, n⟩, ih.2 ⟨hinside, rfl, hn.symm⟩, ?_⟩
      rw [Groups.next?_eq_some_iff]
      exact ⟨hescaped, by simp only; omega⟩

theorem isSome_read?_iff {d : Nat} {s : Text} : (read? ⟨false, d⟩ s).isSome ↔ StaysInside d s := by
  rw [Option.isSome_iff_exists]
  constructor
  · rintro ⟨g, hg⟩
    exact (read?_eq_some_iff.1 hg).1
  · intro h
    obtain ⟨n, hn⟩ := Int.eq_ofNat_of_zero_le (h s List.prefix_rfl)
    exact ⟨⟨endsEscaped s, n⟩, read?_eq_some_iff.2 ⟨h, rfl, hn.symm⟩⟩

/-! ## Where an argument ends -/

/-- A text behind which the reader has to stop holds every beginning that it gets through. -/
theorem prefix_of_read? {a b r r' : Text} (ha : read? ⟨false, 0⟩ a = some ⟨false, 0⟩)
    (hb : (read? ⟨false, 0⟩ b).isSome) (h : a ++ '}' :: r = b ++ r') : b <+: a := by
  rcases List.append_eq_append_iff.1 h with ⟨w, rfl, hw⟩ | ⟨w, rfl, -⟩
  · cases w with
    | nil => simp
    | cons c w =>
      obtain ⟨rfl, -⟩ := List.cons.inj hw
      rw [Groups.read?_append, ha] at hb
      simp at hb
  · exact List.prefix_append b w

theorem cutArgument?_eq_some_iff {s inside r : Text} :
    cutArgument? s = some (inside, r) ↔ s = inside ++ '}' :: r ∧ read? ⟨false, 0⟩ inside = some ⟨false, 0⟩ := by
  constructor
  · intro h
    exact ⟨eq_of_cutGroup? h, read?_of_cutGroup? h⟩
  · rintro ⟨rfl, hread⟩
    cases hcut : cutArgument? (inside ++ '}' :: r) with
    | none =>
      rw [cutArgument?_eq_none_iff, Groups.read?_append, hread] at hcut
      simp at hcut
    | some cut =>
      obtain ⟨inside', r'⟩ := cut
      have heq := eq_of_cutGroup? hcut
      have hread' := read?_of_cutGroup? hcut
      have hle := prefix_of_read? hread (by rw [hread']; rfl) heq
      have hge := prefix_of_read? hread' (by rw [hread]; rfl) heq.symm
      obtain rfl := hle.eq_of_length (Nat.le_antisymm hle.length_le hge.length_le)
      cases List.append_cancel_left heq
      rfl

/-- The position of the brace that ends the argument at whose beginning a text starts. -/
def closing? (s : Text) : Option Nat := (cutArgument? s).map fun (inside, _) => inside.length

/-- The backslashes that a text ends in. -/
def lastBackslashes (s : Text) : Text := s.reverse.takeWhile (· = '\\')

theorem endsEscaped_eq_false_iff {s : Text} : endsEscaped s = false ↔ (lastBackslashes s).length % 2 = 0 := by
  rw [← Bool.not_eq_true, endsEscaped_iff_odd, lastBackslashes]
  omega

theorem closing?_eq_none_iff {t : Text} : closing? t = none ↔ StaysInside 0 t := by
  rw [closing?, Option.map_eq_none_iff, cutArgument?_eq_none_iff, isSome_read?_iff]

theorem closing?_eq_some_iff {t : Text} {i : Nat} :
    closing? t = some i ↔ t[i]? = some '}' ∧ read? ⟨false, 0⟩ (t.take i) = some ⟨false, 0⟩ := by
  rw [closing?, Option.map_eq_some_iff]
  constructor
  · rintro ⟨⟨inside, r⟩, hcut, rfl⟩
    obtain ⟨rfl, hread⟩ := cutArgument?_eq_some_iff.1 hcut
    simpa using hread
  · rintro ⟨hbrace, hread⟩
    obtain ⟨hi, hat⟩ := List.getElem?_eq_some_iff.1 hbrace
    refine ⟨(t.take i, t.drop (i + 1)), cutArgument?_eq_some_iff.2 ⟨?_, hread⟩, ?_⟩
    · rw [← hat, ← List.drop_eq_getElem_cons hi, List.take_append_drop]
    · exact List.length_take_of_le (Nat.le_of_lt hi)

/-- **The two readers of braces agree.** An argument ends at the brace, not escaped, in front of which the
balance is zero and was never below; it does not end if the balance never falls below zero. And the balance
of two texts is the sum of theirs, unless the first ends in an odd run of backslashes. -/
theorem closing?_balance :
    (∀ t i, closing? t = some i ↔
      (t[i]? = some '}' ∧ (lastBackslashes (t.take i)).length % 2 = 0) ∧
        braceBalance (t.take i) = 0 ∧ ∀ p, p <+: t.take i → 0 ≤ braceBalance p) ∧
    (∀ t, closing? t = none ↔ ∀ p, p <+: t → 0 ≤ braceBalance p) ∧
    ∀ s t, (lastBackslashes s).length % 2 ≠ 1 → braceBalance (s ++ t) = braceBalance s + braceBalance t := by
  have hinside : ∀ t, StaysInside 0 t ↔ ∀ p, p <+: t → 0 ≤ braceBalance p := by
    intro t
    simp only [StaysInside, Int.natCast_zero, Int.zero_add]
  refine ⟨fun t i => ?_, fun t => ?_, fun s t hs => ?_⟩
  · rw [closing?_eq_some_iff, read?_eq_some_iff, hinside, ← endsEscaped_eq_false_iff]
    simp only [Int.natCast_zero, Int.zero_add]
    constructor
    · rintro ⟨hbrace, hlow, hescaped, hbalance⟩
      exact ⟨⟨hbrace, hescaped.symm⟩, hbalance.symm, hlow⟩
    · rintro ⟨⟨hbrace, hescaped⟩, hbalance, hlow⟩
      exact ⟨hbrace, hlow, hescaped.symm, hbalance.symm⟩
  · rw [closing?_eq_none_iff, hinside]
  · exact braceBalance_append (endsEscaped_eq_false_iff.2 (by omega)) t

/-- A brace behind one backslash does not count, and one behind two does. -/
theorem closing?_balance_escapes :
    (lastBackslashes "a\\\x7d\x7b\x7d\\\\".toList).length % 2 ≠ 1 ∧
      braceBalance ("a\\\x7d\x7b\x7d\\\\".toList ++ ['}']) =
        braceBalance "a\\\x7d\x7b\x7d\\\\".toList + braceBalance ['}'] ∧
      closing? ("a\\\x7d\x7b\x7d\\\\".toList ++ ['}']) = some 7 :=
  ⟨by decide, closing?_balance.2.2 _ _ (by decide), by decide⟩

end Coursebook.Command
