/-
Fractions that are reported to lack an argument.

`controlWords` reads a formula as TeX does: every backslash with the run of
letters behind it, and whether it is escaped itself. The check searches for
the words instead (`wordsIn_eq`): it does not ask whether the backslash is
escaped, and wants the end of a word where the run of letters ends. Digits
and underscores are part of a word and end a run of letters, so a fraction
in front of them is passed over. What is reported is what should be just if
neither happens to a fraction that lacks an argument (`missingArguments_iff`).
-/
import Coursebook.Integrity.Formula
import Coursebook.Proofs.Integrity.Damage
import Coursebook.Proofs.Text.Escape

namespace Coursebook.Formula

open Text (isAsciiLetter endsWord endsEscaped)
open Corruption (startsWithLetter startsWithLetter_of_endsWord startsWithLetter_dropWhile letters_takeWhile letters_append
  ne_backslash_of_letter)

/-! ## Control words -/

/-- A backslash, escaped or not, with the letters behind it and what follows them. -/
structure ControlWord where
  escaped : Bool
  word : Text
  rest : Text
deriving Repr, DecidableEq

/-- The control words of a text whose first character is escaped or not. -/
def controlWords : (escaped : Bool) → Text → List ControlWord
  | _, [] => []
  | escaped, c :: s =>
    if c = '\\' then ⟨escaped, s.takeWhile isAsciiLetter, s.dropWhile isAsciiLetter⟩ :: controlWords (!escaped) s
    else controlWords false s

theorem controlWords_backslash (escaped : Bool) (s : Text) :
    controlWords escaped ('\\' :: s) =
      ⟨escaped, s.takeWhile isAsciiLetter, s.dropWhile isAsciiLetter⟩ :: controlWords (!escaped) s := by
  rw [controlWords, if_pos rfl]

theorem controlWords_cons {c : Char} (hc : c ≠ '\\') (escaped : Bool) (s : Text) :
    controlWords escaped (c :: s) = controlWords false s := by
  rw [controlWords, if_neg hc]

/-- No control word starts in a run of letters. -/
theorem controlWords_letters_append {w : Text} (hw : ∀ c ∈ w, isAsciiLetter c = true) (escaped : Bool) (r : Text) :
    ∃ escaped', controlWords escaped (w ++ r) = controlWords escaped' r := by
  induction w generalizing escaped with
  | nil => exact ⟨escaped, rfl⟩
  | cons c w ih =>
    obtain ⟨hc, hw⟩ := List.forall_mem_cons.1 hw
    rw [List.cons_append, controlWords_cons (ne_backslash_of_letter hc)]
    exact ih hw false

/-- The control words behind `b` are its backslashes, each with the longest run of letters behind it. -/
theorem mem_controlWords {b s : Text} {w : ControlWord} :
    w ∈ controlWords (endsEscaped b) s ↔
      ∃ a, s = a ++ '\\' :: (w.word ++ w.rest) ∧ w.escaped = endsEscaped (b ++ a) ∧
        (∀ c ∈ w.word, isAsciiLetter c = true) ∧ startsWithLetter w.rest = false := by
  induction s generalizing b with
  | nil => simp [controlWords]
  | cons c s ih =>
    have hnext := Text.endsEscaped_concat b c
    by_cases hc : c = '\\'
    · subst hc
      rw [decide_eq_true rfl, Bool.true_and] at hnext
      rw [controlWords_backslash, List.mem_cons, ← hnext, ih]
      constructor
      · rintro (rfl | ⟨a, rfl, hescaped, hw⟩)
        · refine ⟨[], ?_, by rw [List.append_nil], letters_takeWhile s, startsWithLetter_dropWhile s⟩
          rw [List.nil_append, List.takeWhile_append_dropWhile]
        · exact ⟨'\\' :: a, rfl, by simpa using hescaped, hw⟩
      · rintro ⟨a, he, hescaped, hw, hr⟩
        cases a with
        | nil =>
          obtain ⟨-, rfl⟩ := List.cons.inj he
          obtain ⟨hword, hrest⟩ := letters_append hw hr
          rw [List.append_nil] at hescaped
          left
          rw [hword, hrest, ← hescaped]
        | cons d a =>
          obtain ⟨rfl, rfl⟩ := List.cons.inj he
          exact .inr ⟨a, rfl, by simpa using hescaped, hw, hr⟩
    · have hcons : controlWords (endsEscaped b) (c :: s) = controlWords (endsEscaped (b ++ [c])) s := by
        rw [controlWords_cons hc, hnext, decide_eq_false hc, Bool.false_and]
      rw [hcons, ih]
      constructor
      · rintro ⟨a, rfl, hescaped, hw⟩
        exact ⟨c :: a, rfl, by simpa using hescaped, hw⟩
      · rintro ⟨a, he, hescaped, hw⟩
        cases a with
        | nil => exact absurd (List.cons.inj he).1 hc
        | cons d a =>
          obtain ⟨rfl, rfl⟩ := List.cons.inj he
          exact ⟨a, rfl, by simpa using hescaped, hw⟩

/-! ## The search for words -/

/-- Whether the search for words finds a control word: it has to be listed, and a word has to end where the
letters do. -/
def ControlWord.isFound (words : List Text) (w : ControlWord) : Bool := decide (w.word ∈ words) && endsWord w.rest

theorem controlWord?_isSome {words : List Text} {w r : Text} (hw : w ∈ words) (hr : endsWord r = true) :
    (controlWord? words ('\\' :: (w ++ r))).isSome = true := by
  rw [controlWord?, List.findSome?_isSome_iff]
  refine ⟨w, hw, ?_⟩
  have hafter : Text.after? ('\\' :: w) ('\\' :: (w ++ r)) = some r := Text.after?_append ('\\' :: w) r
  rw [hafter]
  simp [hr]

theorem isFound_eq_false {words : List Text} {s : Text} (h : controlWord? words ('\\' :: s) = none) (escaped : Bool) :
    ControlWord.isFound words ⟨escaped, s.takeWhile isAsciiLetter, s.dropWhile isAsciiLetter⟩ = false := by
  rw [← Bool.not_eq_true, ControlWord.isFound, Bool.and_eq_true, decide_eq_true_eq]
  rintro ⟨hw, hend⟩
  have hsome := controlWord?_isSome hw hend
  rw [List.takeWhile_append_dropWhile, h] at hsome
  exact Bool.noConfusion hsome

section

variable {words : List Text} (hwords : ∀ w ∈ words, ∀ c ∈ w, isAsciiLetter c = true)

include hwords

theorem eq_of_controlWord? {s v r : Text} (h : controlWord? words s = some (v, r)) :
    ∃ w, s = '\\' :: (w ++ r) ∧ v = '\\' :: w ∧ w ∈ words ∧ (∀ c ∈ w, isAsciiLetter c = true) ∧ endsWord r = true := by
  obtain ⟨w, hw, h⟩ := List.exists_of_findSome?_eq_some h
  split at h
  · next r' hr =>
    split at h
    · next hend =>
      obtain ⟨rfl, rfl⟩ := Prod.mk.inj (Option.some.inj h)
      exact ⟨w, Text.after?_eq_some.1 hr, rfl, hw, hwords w hw, hend⟩
    · simp at h
  · simp at h

/-- **The words found are control words**, each with what follows it, in the order in which they stand. -/
theorem wordsIn_eq (escaped : Bool) (s : Text) :
    wordsIn words s = ((controlWords escaped s).filter (·.isFound words)).map fun w => ('\\' :: w.word, w.rest) := by
  -- The search does not see whether it starts behind a backslash, so the induction is for both states.
  have hall := Text.findAll_induct (f := fun s => (controlWord? words s).map fun w => (w, w.2))
    (Q := fun s l => ∀ escaped,
      l.map (·.1) = ((controlWords escaped s).filter (·.isFound words)).map fun w => ('\\' :: w.word, w.rest))
    (fun _ => rfl) ?skip ?found ?suffix s escaped
  case skip =>
    intro c s l hnone ih escaped
    by_cases hc : c = '\\'
    · subst hc
      rw [controlWords_backslash, List.filter_cons, isFound_eq_false (Option.map_eq_none_iff.1 hnone)]
      exact ih (!escaped)
    · rw [controlWords_cons hc]
      exact ih false
  case found =>
    intro c w r value l h ih escaped
    obtain ⟨⟨v, r⟩, hv, rfl, rfl⟩ := Option.map_eq_some_iff.1 h
    obtain ⟨w', hs, rfl, hw, hletters, hend⟩ := eq_of_controlWord? hwords hv
    obtain ⟨rfl, happ⟩ := List.cons.inj hs
    obtain rfl := List.append_cancel_right happ
    obtain ⟨hword, hrest⟩ := letters_append hletters (startsWithLetter_of_endsWord hend)
    have hfound : ControlWord.isFound words ⟨escaped, w, r⟩ = true := by
      rw [ControlWord.isFound, decide_eq_true hw, hend, Bool.and_self]
    obtain ⟨escaped', htail⟩ := controlWords_letters_append hletters (!escaped) r
    rw [controlWords_backslash, hword, hrest, List.filter_cons, if_pos hfound, htail, List.map_cons, List.map_cons,
      ih escaped']
  case suffix =>
    intro c s value r h
    obtain ⟨⟨v, r⟩, hv, rfl, rfl⟩ := Option.map_eq_some_iff.1 h
    obtain ⟨w, hs, -⟩ := eq_of_controlWord? hwords hv
    rw [(List.cons.inj hs).2]
    exact List.suffix_append w r
  rw [List.map_map] at hall
  exact hall

end

/-! ## Missing arguments -/

theorem letters_fractions : ∀ w ∈ fractions, ∀ c ∈ w, isAsciiLetter c = true := by
  have hall : ∀ w ∈ fractions, w.all isAsciiLetter = true := by decide
  exact fun w hw => List.all_eq_true.1 (hall w hw)

/-- Whether two arguments can be read at the head of a text. -/
def hasTwoArguments (s : Text) : Bool := ((afterArgument? s).bind afterArgument?).isSome

/-- Whether a control word is a fraction that is not followed by two arguments. -/
def ControlWord.lacksArgument (w : ControlWord) : Bool := decide (w.word ∈ fractions) && !hasTwoArguments w.rest

/-- The fractions of a text that lack an argument. -/
def incomplete (s : Text) : List ControlWord := (controlWords false s).filter fun w => w.lacksArgument && !w.escaped

/-- The control words that are reported. -/
def reported (s : Text) : List ControlWord :=
  (controlWords false s).filter fun w => w.lacksArgument && endsWord w.rest

def Problem.isMissingArgument : Problem → Bool
  | .missingArgument _ => true
  | _ => false

theorem filter_problems (s : Text) :
    (problems s).filter Problem.isMissingArgument =
      ((wordsIn fractions s).filter fun w => !hasTwoArguments w.2).map fun w => .missingArgument w.1 := by
  have hbalance : ∀ n : Int, (if n = 0 then [] else [Problem.unbalanced n]).filter Problem.isMissingArgument = [] := by
    intro n
    split <;> rfl
  have hpairs : ∀ m n : Nat, (if m = n then [] else [Problem.unpaired m n]).filter Problem.isMissingArgument = [] := by
    intro m n
    split <;> rfl
  simp only [problems, List.filter_append, hbalance, hpairs, List.filter_map]
  simp [Function.comp_def, Problem.isMissingArgument, hasTwoArguments]

theorem filter_eq_filter_iff {α : Type} {p q : α → Bool} {l : List α} :
    l.filter p = l.filter q ↔ ∀ x ∈ l, p x = q x := by
  refine ⟨fun h x hx => ?_, List.filter_congr⟩
  have hmem : x ∈ l.filter p ↔ x ∈ l.filter q := by rw [h]
  rw [List.mem_filter, List.mem_filter] at hmem
  rw [Bool.eq_iff_iff]
  exact ⟨fun hp => (hmem.1 ⟨hx, hp⟩).2, fun hq => (hmem.2 ⟨hx, hq⟩).2⟩

/-- The fractions that lack an argument are reported if the check sees each of them and no other. -/
theorem reported_eq_incomplete_iff (s : Text) : reported s = incomplete s ↔
    ∀ a w r, s = a ++ '\\' :: (w ++ r) → w ∈ fractions → startsWithLetter r = false → hasTwoArguments r = false →
      (endsWord r = true ↔ endsEscaped a = false) := by
  have hmem : ∀ w, w ∈ controlWords false s ↔ ∃ a, s = a ++ '\\' :: (w.word ++ w.rest) ∧ w.escaped = endsEscaped a ∧
      (∀ c ∈ w.word, isAsciiLetter c = true) ∧ startsWithLetter w.rest = false := fun w => mem_controlWords (b := [])
  rw [reported, incomplete, filter_eq_filter_iff]
  constructor
  · intro hall a w r hs hw hr htwo
    have hlacks : ControlWord.lacksArgument ⟨endsEscaped a, w, r⟩ = true := by
      rw [ControlWord.lacksArgument, decide_eq_true hw, htwo]
      rfl
    have hseen := hall ⟨endsEscaped a, w, r⟩ ((hmem _).2 ⟨a, hs, rfl, letters_fractions w hw, hr⟩)
    rw [hlacks, Bool.true_and, Bool.true_and] at hseen
    rw [hseen, Bool.not_eq_true']
  · intro hall w hw
    obtain ⟨a, hs, hescaped, -, hr⟩ := (hmem w).1 hw
    cases hlacks : w.lacksArgument with
    | false => rfl
    | true =>
      rw [ControlWord.lacksArgument, Bool.and_eq_true, decide_eq_true_eq, Bool.not_eq_true'] at hlacks
      have hseen := hall a w.word w.rest hs hlacks.1 hr hlacks.2
      rw [Bool.true_and, Bool.true_and, hescaped, Bool.eq_iff_iff, hseen, Bool.not_eq_true']

/-- **What is reported** to lack an argument, and when it is what lacks one: a fraction is seen if a word ends
with it, and should be if its backslash is not escaped. -/
theorem missingArguments_iff (s : Text) :
    (problems s).filter Problem.isMissingArgument = (reported s).map (fun w => .missingArgument ('\\' :: w.word)) ∧
      (reported s = incomplete s ↔
        ∀ a w r, s = a ++ '\\' :: (w ++ r) → w ∈ fractions → startsWithLetter r = false → hasTwoArguments r = false →
          (endsWord r = true ↔ endsEscaped a = false)) := by
  refine ⟨?_, reported_eq_incomplete_iff s⟩
  have hreported : reported s =
      ((controlWords false s).filter (·.isFound fractions)).filter fun w => !hasTwoArguments w.rest := by
    rw [reported, List.filter_filter]
    refine List.filter_congr fun w _ => ?_
    rw [ControlWord.lacksArgument, ControlWord.isFound, Bool.and_right_comm, Bool.and_comm]
  rw [filter_problems, wordsIn_eq letters_fractions false, List.filter_map, List.map_map, hreported]
  rfl

end Coursebook.Formula
