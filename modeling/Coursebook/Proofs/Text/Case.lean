/-
Lower case where the table has nothing to say: a character of ASCII is
lowered on its own, and the two accented letters of French labels are in
lower case already.
-/
import Coursebook.Proofs.Text.Words
import Coursebook.Text.Case

namespace Coursebook.Text

theorem readRuns_eq {table : String} {s : Text} (h : table = String.ofList s) :
    readRuns table = (piecesAt isBlank s).map Run.read := by
  rw [readRuns, h, String.toList_ofList, words_eq]

theorem mapRuns_eq_self {runs : List Run} {n : Nat} (h : ∀ r ∈ runs, r.covers n = false) : mapRuns runs n = n := by
  have hnone : runs.find? (·.covers n) = none := List.find?_eq_none.2 fun r hr => by simp [h r hr]
  rw [mapRuns, hnone]

/-- The accented letters that stand in labels and have no capital. -/
def isAccented (c : Char) : Bool := c = 'é' || c = 'è'

-- The table is read once for both letters.
set_option maxRecDepth 40000 in
theorem lowerRuns_accented : ∀ r ∈ lowerRuns, r.covers 0xE9 = false ∧ r.covers 0xE8 = false := by
  have hall : lowerRuns.all (fun r => !r.covers 0xE9 && !r.covers 0xE8) = true := by
    rw [lowerRuns, readRuns_eq rfl]
    decide +kernel
  intro r hr
  simpa using List.all_eq_true.1 hall r hr

theorem lowerChar_of_lt {c : Char} (h : c.toNat < 0x80) : lowerChar c = [asciiLower c] := if_pos h

theorem lowerChar_of_isAccented {c : Char} (h : isAccented c = true) : lowerChar c = [asciiLower c] := by
  have hkept : ∀ r ∈ lowerRuns, r.covers c.toNat = false := by
    intro r hr
    obtain ⟨he, hg⟩ := lowerRuns_accented r hr
    rcases Bool.or_eq_true_iff.1 h with h | h
    · rwa [of_decide_eq_true h]
    · rwa [of_decide_eq_true h]
  rw [lowerChar, mapRuns_eq_self hkept]
  rcases Bool.or_eq_true_iff.1 h with h | h
  · rw [of_decide_eq_true h]
    rfl
  · rw [of_decide_eq_true h]
    rfl

/-- A text of ASCII and such letters is lowered letter by letter. -/
theorem lower_eq_map {s : Text} (h : ∀ c ∈ s, c.toNat < 0x80 ∨ isAccented c = true) : lower s = s.map asciiLower := by
  induction s with
  | nil => rfl
  | cons c s ih =>
    obtain ⟨hc, hs⟩ := List.forall_mem_cons.1 h
    have hlower : lowerChar c = [asciiLower c] := hc.elim lowerChar_of_lt lowerChar_of_isAccented
    rw [lower, List.flatMap_cons, hlower, ← lower, ih hs]
    rfl

end Coursebook.Text
