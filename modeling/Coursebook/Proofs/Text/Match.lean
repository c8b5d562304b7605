/-
What a search finds in a text. The matches stand in the text one behind the
other, each is read where it starts, and wherever something can be read a
match was found (`search_findAll`).

A text is its matches and the stretches between them (`weave_sources`); so
whatever is put in the place of the matches, nothing else is touched.
-/
import Coursebook.Proofs.Text.Search

namespace Coursebook.Text

variable {α β : Type}

/-! ## Searches -/

/-- A recogniser leaves a rest of what stands behind the first character that it is given. -/
def Reads (f : Text → Option (α × Text)) : Prop := ∀ {c s value r}, f (c :: s) = some (value, r) → r <:+ s

/-- A match of a recogniser in a text. -/
structure Match.Valid (f : Text → Option (α × Text)) (s : Text) (m : Match α) : Prop where
  nonempty : m.start < m.stop
  bounded : m.stop ≤ s.length
  read : f (s.drop m.start) = some (m.value, s.drop m.stop)

/-- Matches one behind the other. -/
def InOrder (ms : List (Match α)) : Prop := ms.Pairwise fun m k => m.stop ≤ k.start

/-- What a search from the position `pos` on finds: valid matches in order, and one wherever something can be
read. -/
structure Search (f : Text → Option (α × Text)) (s : Text) (pos : Nat) (ms : List (Match α)) : Prop where
  behind : ∀ m ∈ ms, pos ≤ m.start
  valid : ∀ m ∈ ms, m.Valid f s
  inOrder : InOrder ms
  exhaustive : ∀ i, pos ≤ i → i < s.length → (f (s.drop i)).isSome = true → ∃ m ∈ ms, m.start ≤ i ∧ i < m.stop

theorem search_matchesFrom {f : Text → Option (α × Text)} (hf : Reads f) (a s : Text) :
    Search f (a ++ s) a.length (matchesFrom f a.length s) := by
  refine matchesFrom_induct (Q := fun a s ms => Search f (a ++ s) a.length ms)
    (fun a => ⟨by simp, by simp, .nil, fun i hle hlt => ?_⟩) (fun {a c s ms} h ih => ?_)
    (fun {a c w r value ms} h ih => ?_) hf a s
  · rw [List.append_nil] at hlt
    omega
  · rw [List.append_assoc, List.singleton_append, List.length_append, List.length_singleton] at ih
    refine ⟨fun m hm => Nat.le_of_succ_le (ih.behind m hm), ih.valid, ih.inOrder, fun i hle hlt hread => ?_⟩
    rcases Nat.eq_or_lt_of_le hle with rfl | hlater
    · rw [List.drop_left, h] at hread
      cases hread
    · exact ih.exhaustive i hlater hlt hread
  · have hfirst : a.length < (a ++ c :: w).length := by simp
    have hrest : (a ++ c :: (w ++ r)).drop (a ++ c :: w).length = r := by
      rw [← List.cons_append, ← List.append_assoc, List.drop_left]
    rw [List.append_assoc, List.cons_append] at ih
    refine ⟨fun m hm => ?_, fun m hm => ?_, List.pairwise_cons.2 ⟨ih.behind, ih.inOrder⟩, fun i hle hlt hread => ?_⟩
    · rcases List.mem_cons.1 hm with rfl | hm
      · exact Nat.le_refl _
      · exact Nat.le_trans (Nat.le_of_lt hfirst) (ih.behind m hm)
    · rcases List.mem_cons.1 hm with rfl | hm
      · exact ⟨hfirst, by simp, by rw [List.drop_left, h, hrest]⟩
      · exact ih.valid m hm
    · rcases Nat.lt_or_ge i (a ++ c :: w).length with hin | hbehind
      · exact ⟨_, List.mem_cons_self, hle, hin⟩
      · obtain ⟨m, hm, hmi⟩ := ih.exhaustive i hbehind hlt hread
        exact ⟨m, List.mem_cons_of_mem _ hm, hmi⟩

theorem search_findAll {f : Text → Option (α × Text)} (hf : Reads f) (s : Text) : Search f s 0 (findAll f s) :=
  search_matchesFrom hf [] s

/-! ## What is put in the place of matches -/

/-- The stretch of a text that a match was read from. -/
def Match.source (s : Text) (m : Match α) : Text := slice s m.start m.stop

/-- The stretches in front of, between and behind matches, from the position `cursor` on. -/
def gaps (s : Text) (cursor : Nat) : List (Match α) → List Text
  | [] => [s.drop cursor]
  | m :: ms => slice s cursor m.start :: gaps s m.stop ms

/-- Two lists of pieces joined in turn, the first list first. -/
def weave : List (List β) → List (List β) → List β
  | [], xs => xs.flatten
  | g :: gs, [] => (g :: gs).flatten
  | g :: gs, x :: xs => g ++ (x ++ weave gs xs)

theorem slice_append_drop (s : Text) {i j : Nat} (h : i ≤ j) : slice s i j ++ s.drop j = s.drop i := by
  rw [slice, ← Nat.add_sub_cancel' h, ← List.drop_drop, Nat.add_sub_cancel_left]
  exact List.take_append_drop _ _

/-- A text is put together from the stretches around its matches and their sources. -/
theorem weave_sources {s : Text} {ms : List (Match α)} (hvalid : ∀ m ∈ ms, m.start ≤ m.stop) (horder : InOrder ms)
    {cursor : Nat} (hcursor : ∀ m ∈ ms, cursor ≤ m.start) :
    weave (gaps s cursor ms) (ms.map (Match.source s)) = s.drop cursor := by
  induction ms generalizing cursor with
  | nil => simp [gaps, weave]
  | cons m ms ih =>
    obtain ⟨hbehind, horder⟩ := List.pairwise_cons.1 horder
    obtain ⟨hm, hvalid⟩ := List.forall_mem_cons.1 hvalid
    rw [gaps, List.map_cons, weave, ih hvalid horder hbehind, Match.source,
      slice_append_drop s hm, slice_append_drop s (hcursor m List.mem_cons_self)]

end Coursebook.Text
