/-
Repair as a rewriting, character by character. `Corruption.repair` cuts a
text at the positions of its matches; what it does is simpler to say from
the left: where damage starts, its first character is exchanged for the
beginning of what was meant, and every other character stays
(`repair_eq_rewrite`). In the same way no damage is found when none starts
anywhere (`findAll_eq_nil_iff`).

Both rest on `Local`: an entry changes only the first character of what it
reads, and inside what it read no other damage starts.
-/
import Coursebook.Integrity.Corruption
import Coursebook.Proofs.Text.Search

namespace Coursebook.Corruption

/-- Whether damage starts at the head of a text, behind the character `before`. -/
def starts (e : Corruption) (before : Option Char) (s : Text) : Bool := (e.read? s).isSome && !before.any e.guard

/-- A text with `head` in place of each character where damage starts. -/
def rewrite (e : Corruption) (head : Text) : Option Char → Text → Text
  | _, [] => []
  | before, c :: s => (if e.starts before (c :: s) then head else [c]) ++ rewrite e head (some c) s

/-- Whether damage starts somewhere in a text that stands behind the character `before`. -/
def Damaged (e : Corruption) : Option Char → Text → Prop
  | _, [] => False
  | before, c :: s => e.starts before (c :: s) = true ∨ Damaged e (some c) s

/-- An entry that changes only the first character of what it reads. -/
def Local (e : Corruption) (head : Text) : Prop :=
  ∀ {c s v r}, e.read? (c :: s) = some (v, r) →
    ∃ w, s = w ++ r ∧ v = head ++ w ∧ ∀ t, t ≠ [] → t <:+ w → e.read? (t ++ r) = none

variable {e : Corruption} {head : Text}

theorem rewrite_starts {before : Option Char} {c : Char} {s : Text} (h : e.starts before (c :: s) = true) :
    e.rewrite head before (c :: s) = head ++ e.rewrite head (some c) s := by
  rw [rewrite, if_pos h]

theorem rewrite_keeps {before : Option Char} {c : Char} {s : Text} (h : e.starts before (c :: s) = false) :
    e.rewrite head before (c :: s) = c :: e.rewrite head (some c) s := by
  rw [rewrite, if_neg (by simp [h])]
  rfl

theorem starts_eq_false {before : Option Char} {s : Text} (h : e.read? s = none) : e.starts before s = false := by
  simp [starts, h]

/-- The last character of what stands in front, when `w` follows it. -/
def lastOf (before : Option Char) (w : Text) : Option Char := w.getLast?.or before

@[simp] theorem lastOf_nil (before : Option Char) : lastOf before [] = before := rfl

@[simp] theorem lastOf_cons (before : Option Char) (c : Char) (w : Text) :
    lastOf before (c :: w) = lastOf (some c) w := by
  cases w with
  | nil => rfl
  | cons d w => simp [lastOf, List.getLast?_cons]

/-- A stretch in which no damage starts stays as it is. -/
theorem rewrite_append {w r : Text} (h : ∀ t, t ≠ [] → t <:+ w → e.read? (t ++ r) = none) (before : Option Char) :
    e.rewrite head before (w ++ r) = w ++ e.rewrite head (lastOf before w) r := by
  induction w generalizing before with
  | nil => rfl
  | cons c w ih =>
    have hc := h (c :: w) (by simp) List.suffix_rfl
    rw [List.cons_append] at hc ⊢
    rw [rewrite_keeps (starts_eq_false hc), ih (fun t ht hs => h t ht (hs.trans (List.suffix_cons c w))), lastOf_cons]
    rfl

theorem damaged_append {w r : Text} (h : ∀ t, t ≠ [] → t <:+ w → e.read? (t ++ r) = none) (before : Option Char) :
    e.Damaged before (w ++ r) ↔ e.Damaged (lastOf before w) r := by
  induction w generalizing before with
  | nil => rfl
  | cons c w ih =>
    have hc := h (c :: w) (by simp) List.suffix_rfl
    rw [List.cons_append] at hc ⊢
    rw [Damaged, starts_eq_false hc, ih (fun t ht hs => h t ht (hs.trans (List.suffix_cons c w))), lastOf_cons]
    simp

/-! ## Positions -/

/-- The guard looks at the character in front of a position. -/
theorem guarded_append (e : Corruption) (a s : Text) : e.guarded (a ++ s) a.length = a.getLast?.any e.guard := by
  rcases List.eq_nil_or_concat a with rfl | ⟨a, c, rfl⟩
  · rfl
  · simp [guarded]

/-- The matches that the guard lets pass, read behind `a`. -/
def unguarded (e : Corruption) (a s : Text) : List (Text.Match Text) :=
  (Text.matchesFrom e.read? a.length s).filter fun m => !e.guarded (a ++ s) m.start

theorem Local.reads (h : e.Local head) {c : Char} {s v r : Text} (hread : e.read? (c :: s) = some (v, r)) : r <:+ s := by
  obtain ⟨w, rfl, -, -⟩ := h hread
  exact List.suffix_append w r

theorem lastOf_getLast? (a w : Text) (c : Char) : lastOf (some c) w = (a ++ c :: w).getLast? := by
  simp [lastOf, List.getLast?_cons, List.getLast?_append]

/-- The search from left to right. A match that the guard stops is passed over as a whole, for no other one
starts inside of it. -/
theorem unguarded_induct (hl : e.Local head) {Q : Text → Text → List (Text.Match Text) → Prop} (nil : ∀ a, Q a [] [])
    (skip : ∀ {a c s l}, e.read? (c :: s) = none → Q (a ++ [c]) s l → Q a (c :: s) l)
    (found : ∀ {a c w r l}, (∀ t, t ≠ [] → t <:+ w → e.read? (t ++ r) = none) → Q (a ++ c :: w) r l →
      Q a (c :: (w ++ r)) ((if e.starts a.getLast? (c :: (w ++ r)) then [⟨a.length, (a ++ c :: w).length, head ++ w⟩]
        else []) ++ l))
    (a s : Text) : Q a s (e.unguarded a s) := by
  refine Text.matchesFrom_induct (Q := fun a s ms => Q a s (ms.filter fun m => !e.guarded (a ++ s) m.start)) nil
    (fun {a c s l} h ih => ?_) (fun {a c w r v l} h ih => ?_) hl.reads a s
  · rw [List.append_assoc, List.singleton_append] at ih
    exact skip h ih
  · obtain ⟨w', hw, rfl, hnone⟩ := hl h
    obtain rfl := List.append_cancel_right hw
    rw [List.append_assoc, List.cons_append] at ih
    have hstarts : e.starts a.getLast? (c :: (w ++ r)) = !e.guarded (a ++ c :: (w ++ r)) a.length := by
      simp [starts, h, guarded_append]
    have hfound := found hnone ih
    rw [hstarts] at hfound
    rw [List.filter_cons]
    split at hfound
    · next hpass => rwa [if_pos hpass]
    · next hstop => rwa [if_neg hstop]

theorem repairFrom_unguarded (hl : e.Local head) (a s : Text) : ∀ cursor ≤ a.length,
    repairFrom (a ++ s) cursor (e.unguarded a s) = a.drop cursor ++ e.rewrite head a.getLast? s := by
  refine unguarded_induct hl (Q := fun a s ms => ∀ cursor ≤ a.length,
    repairFrom (a ++ s) cursor ms = a.drop cursor ++ e.rewrite head a.getLast? s)
    (fun a cursor _ => by simp [repairFrom, rewrite]) (fun {a c s l} h ih cursor hcur => ?_)
    (fun {a c w r l} hnone ih cursor hcur => ?_) a s
  · have := ih cursor (by simp; omega)
    rw [rewrite_keeps (starts_eq_false h)]
    simpa [List.drop_append_of_le_length hcur] using this
  · rw [List.append_assoc, List.cons_append] at ih
    cases hs : e.starts a.getLast? (c :: (w ++ r)) with
    | true =>
      have ih := ih (a ++ c :: w).length (Nat.le_refl _)
      rw [if_pos rfl, List.cons_append, List.nil_append, repairFrom, ih, rewrite_starts hs, rewrite_append hnone,
        lastOf_getLast? a, Text.slice_append hcur]
      simp
    | false =>
      have ih := ih cursor (by simp; omega)
      rw [if_neg (by simp), List.nil_append, ih, rewrite_keeps hs, rewrite_append hnone, lastOf_getLast? a,
        List.drop_append_of_le_length hcur]
      simp

theorem unguarded_eq_nil_iff (hl : e.Local head) (a s : Text) : e.unguarded a s = [] ↔ ¬e.Damaged a.getLast? s := by
  refine unguarded_induct hl (Q := fun a s ms => ms = [] ↔ ¬e.Damaged a.getLast? s) (fun a => by simp [Damaged])
    (fun {a c s l} h ih => ?_) (fun {a c w r l} hnone ih => ?_) a s
  · rw [ih, Damaged, starts_eq_false h]
    simp
  · rw [List.append_eq_nil_iff, ih, Damaged, damaged_append hnone, lastOf_getLast? a]
    cases e.starts a.getLast? (c :: (w ++ r)) <;> simp

/-- **Repair exchanges the first character of what is damaged.** -/
theorem repair_eq_rewrite (hl : e.Local head) (s : Text) : e.repair s = e.rewrite head none s :=
  repairFrom_unguarded hl [] s 0 (Nat.le_refl 0)

/-- **Nothing is found where no damage starts.** -/
theorem findAll_eq_nil_iff (hl : e.Local head) (s : Text) : e.findAll s = [] ↔ ¬e.Damaged none s :=
  unguarded_eq_nil_iff hl [] s

end Coursebook.Corruption
