/-
Groups in braces, read from the left. The reader knows whether the next
character is escaped and how many groups are open, and he stops at a closing
brace when none is. So an argument has no end exactly if he gets through all
that stands behind its opening brace (`cutArgument?_eq_none_iff`), and what
`cutGroup?` cuts off is a text behind which all its own groups are closed
(`read?_of_cutGroup?`).

What is read of a text does not depend on the groups that are open around it,
as long as it closes none of them (`Groups.read?_within`).
-/
import Coursebook.Command.Argument
import Coursebook.Proofs.Text.Search

namespace Coursebook.Command

/-- What is known in front of a character: whether it is escaped, and how many groups are open. -/
structure Groups where
  escaped : Bool
  depth : Nat
deriving DecidableEq, Repr

namespace Groups

/-- Behind the next character; `none` if it closes a group and none is open. -/
def next? (g : Groups) (c : Char) : Option Groups :=
  if g.escaped then some ⟨false, g.depth⟩
  else if c = '\\' then some ⟨true, g.depth⟩
  else if c = '{' then some ⟨false, g.depth + 1⟩
  else if c = '}' then if g.depth = 0 then none else some ⟨false, g.depth - 1⟩
  else some ⟨false, g.depth⟩

/-- Behind a text. -/
def read? (g : Groups) (s : Text) : Option Groups := s.foldlM next? g

/-- The same inside of `n` more groups. -/
def within (g : Groups) (n : Nat) : Groups := ⟨g.escaped, g.depth + n⟩

@[simp] theorem read?_nil (g : Groups) : g.read? [] = some g := rfl

theorem read?_cons (g : Groups) (c : Char) (s : Text) : g.read? (c :: s) = (g.next? c).bind (read? · s) := by
  rw [read?, List.foldlM_cons]
  rfl

theorem read?_append (g : Groups) (s t : Text) : g.read? (s ++ t) = (g.read? s).bind (read? · t) := by
  rw [read?, List.foldlM_append]
  rfl

@[simp] theorem read?_escaped (d : Nat) (c : Char) (s : Text) : read? ⟨true, d⟩ (c :: s) = read? ⟨false, d⟩ s := rfl

@[simp] theorem read?_backslash (d : Nat) (s : Text) : read? ⟨false, d⟩ ('\\' :: s) = read? ⟨true, d⟩ s := rfl

@[simp] theorem read?_opening (d : Nat) (s : Text) : read? ⟨false, d⟩ ('{' :: s) = read? ⟨false, d + 1⟩ s := rfl

@[simp] theorem read?_closing (d : Nat) (s : Text) : read? ⟨false, d + 1⟩ ('}' :: s) = read? ⟨false, d⟩ s := rfl

@[simp] theorem read?_closing_zero (s : Text) : read? ⟨false, 0⟩ ('}' :: s) = none := rfl

theorem next?_within {g g' : Groups} {c : Char} (h : g.next? c = some g') (n : Nat) :
    (g.within n).next? c = some (g'.within n) := by
  grind [next?, within]

/-- **The groups around a text** stay open. -/
theorem read?_within {g g' : Groups} {s : Text} (h : g.read? s = some g') (n : Nat) :
    (g.within n).read? s = some (g'.within n) := by
  induction s generalizing g with
  | nil => simp_all
  | cons c s ih =>
    rw [read?_cons, Option.bind_eq_some_iff] at h ⊢
    obtain ⟨k, hnext, hread⟩ := h
    exact ⟨k.within n, next?_within hnext n, ih hread⟩

/-! ## Texts without groups -/

/-- A text without a backslash and without a brace. -/
def Free (v : Text) : Prop := ∀ c ∈ v, c ≠ '\\' ∧ c ≠ '{' ∧ c ≠ '}'

instance : DecidablePred Free := fun v => List.decidableBAll (fun c => c ≠ '\\' ∧ c ≠ '{' ∧ c ≠ '}') v

theorem read?_free {v : Text} (hv : Free v) (d : Nat) : read? ⟨false, d⟩ v = some ⟨false, d⟩ := by
  induction v with
  | nil => rfl
  | cons c v ih =>
    obtain ⟨hc, hv⟩ := List.forall_mem_cons.1 hv
    rw [read?_cons]
    simp [next?, hc, ih hv]

/-- Behind such a text nothing is escaped, if there is something of it. -/
theorem read?_free_of_ne_nil {v : Text} (hv : Free v) (hne : v ≠ []) (g : Groups) :
    g.read? v = some ⟨false, g.depth⟩ := by
  obtain ⟨_ | _, d⟩ := g
  · exact read?_free hv d
  · obtain ⟨c, v, rfl⟩ := List.exists_cons_of_ne_nil hne
    rw [read?_escaped]
    exact read?_free (List.forall_mem_cons.1 hv).2 d

theorem read?_word {name : Text} (hname : Free name) (hne : name ≠ []) (g : Groups) :
    g.read? (word name) = some ⟨false, g.depth⟩ := by
  obtain ⟨_ | _, d⟩ := g
  · exact read?_free_of_ne_nil hname hne ⟨true, d⟩
  · exact read?_free hname d

end Groups

/-! ## Arguments -/

open Groups (read?)

/-- What is cut off closes the groups it is in, but the last one. -/
theorem read?_of_cutGroup? {d : Nat} {s inside r : Text} (h : cutGroup? d s = some (inside, r)) :
    read? ⟨false, d⟩ inside = some ⟨false, 0⟩ := by
  fun_induction cutGroup? d s generalizing inside with
  | case1 => simp at h
  | case2 => simp at h
  | case3 d c s ih | case4 d s ih | case6 d s ih =>
    simp only [Option.map_eq_some_iff, Prod.mk.injEq, Prod.exists] at h
    obtain ⟨i, r', hi, rfl, rfl⟩ := h
    simpa using ih hi
  | case5 s =>
    obtain ⟨rfl, rfl⟩ : inside = [] ∧ r = s := by simpa [eq_comm] using h
    rfl
  | case7 d c s hlast hb ho hz hc ih =>
    simp only [Option.map_eq_some_iff, Prod.mk.injEq, Prod.exists] at h
    obtain ⟨i, r', hi, rfl, rfl⟩ := h
    have hfree : Groups.Free [c] := by cases d <;> cases s <;> simp_all [Groups.Free]
    rw [← List.singleton_append, Groups.read?_append, Groups.read?_free hfree]
    exact ih hi

theorem isSome_read?_of_cutGroup? {d : Nat} {s : Text} (h : cutGroup? d s = none) :
    (read? ⟨false, d⟩ s).isSome := by
  fun_induction cutGroup? d s with
  | case1 => rfl
  | case2 => rfl
  | case3 d c s ih | case4 d s ih | case6 d s ih => simpa using ih (by simpa using h)
  | case5 s => simp at h
  | case7 d c s hlast hb ho hz hc ih =>
    have hfree : Groups.Free [c] := by cases d <;> cases s <;> simp_all [Groups.Free]
    rw [← List.singleton_append, Groups.read?_append, Groups.read?_free hfree]
    exact ih (by simpa using h)

/-- **An argument has no end** if the reader gets through all that stands behind its opening brace. -/
theorem cutArgument?_eq_none_iff {s : Text} : cutArgument? s = none ↔ (read? ⟨false, 0⟩ s).isSome := by
  constructor
  · exact isSome_read?_of_cutGroup?
  · intro h
    cases hcut : cutArgument? s with
    | none => rfl
    | some cut =>
      rw [eq_of_cutGroup? hcut, Groups.read?_append, read?_of_cutGroup? hcut] at h
      simp at h

end Coursebook.Command
