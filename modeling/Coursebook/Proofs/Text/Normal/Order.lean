/-
The canonical order of marks. `orderMarks` sorts each run of marks by class
and keeps the order within a class; what is in order it leaves alone
(`orderMarks_of_ordered`), a starter parts what it sorts
(`orderMarks_append_starter`), and a mark may change places with one of
another class before the sorting (`orderMarks_cons_append`).
-/
import Coursebook.Text.Normal

namespace Coursebook.Text

/-- In canonical order: no mark stands behind one of a higher class. -/
def Ordered : Text → Prop
  | [] => True
  | c :: s => (∀ d ∈ s.head?, combiningClass d ≠ 0 → combiningClass c ≤ combiningClass d) ∧ Ordered s

/-! ## One mark -/

theorem placeMark_of_le {c : Char} {s : Text}
    (h : ∀ d ∈ s.head?, combiningClass d ≠ 0 → combiningClass c ≤ combiningClass d) : placeMark c s = c :: s := by
  cases s with
  | nil => rfl
  | cons d s =>
    rw [placeMark, if_neg]
    rintro ⟨h0, hlt⟩
    have := h d rfl h0
    omega

theorem placeMark_starter {c : Char} (h : combiningClass c = 0) (s : Text) : placeMark c s = c :: s :=
  placeMark_of_le fun d _ _ => by omega

theorem placeMark_append_starter {c : Char} (h : combiningClass c = 0) (m : Char) (x y : Text) :
    placeMark m (x ++ c :: y) = placeMark m x ++ c :: y := by
  induction x with
  | nil => exact placeMark_of_le fun d hd h0 => absurd (by cases hd; exact h) h0
  | cons d x ih =>
    rw [List.cons_append, placeMark, placeMark]
    split
    · rw [ih, List.cons_append]
    · rfl

theorem placeMark_perm (c : Char) (s : Text) : (placeMark c s).Perm (c :: s) := by
  induction s with
  | nil => exact List.Perm.refl _
  | cons d s ih =>
    rw [placeMark]
    split
    · exact (ih.cons d).trans (List.Perm.swap c d s)
    · exact List.Perm.refl _

theorem head?_placeMark {c e : Char} {s : Text} (h : e ∈ (placeMark c s).head?) : e = c ∨ e ∈ s.head? := by
  cases s with
  | nil =>
    cases h
    exact .inl rfl
  | cons d s =>
    rw [placeMark] at h
    split at h
    · exact .inr h
    · cases h
      exact .inl rfl

/-- A mark goes behind the marks of a smaller class. -/
theorem placeMark_eq (c : Char) (s : Text) :
    ∃ w r, placeMark c s = w ++ c :: r ∧ ∀ m ∈ w, combiningClass m ≠ 0 ∧ combiningClass m < combiningClass c := by
  induction s with
  | nil => exact ⟨[], [], rfl, by simp⟩
  | cons d s ih =>
    rw [placeMark]
    split
    · next hd =>
      obtain ⟨w, r, he, hw⟩ := ih
      refine ⟨d :: w, r, by rw [he]; rfl, fun m hm => ?_⟩
      rcases List.mem_cons.1 hm with rfl | hm
      · exact hd
      · exact hw m hm
    · exact ⟨[], d :: s, rfl, by simp⟩

theorem ordered_placeMark (c : Char) {s : Text} (h : Ordered s) : Ordered (placeMark c s) := by
  induction s with
  | nil => exact ⟨by simp, trivial⟩
  | cons d s ih =>
    rw [placeMark]
    split
    · next hd =>
      refine ⟨fun e he h0 => ?_, ih h.2⟩
      rcases head?_placeMark he with rfl | he
      · omega
      · exact h.1 e he h0
    · next hd =>
      refine ⟨fun e he h0 => ?_, h⟩
      cases he
      omega

/-- Marks of different classes find their places in either order. -/
theorem placeMark_comm {a b : Char} (ha : combiningClass a ≠ 0) (hab : combiningClass a < combiningClass b) (s : Text) :
    placeMark b (placeMark a s) = placeMark a (placeMark b s) := by
  have hb : placeMark b [a] = [a, b] := by rw [placeMark, if_pos ⟨ha, hab⟩]; rfl
  induction s with
  | nil =>
    refine hb.trans ?_
    rw [placeMark, placeMark, if_neg (by omega)]
  | cons d s ih =>
    by_cases h1 : combiningClass d ≠ 0 ∧ combiningClass d < combiningClass a
    · have h2 : combiningClass d ≠ 0 ∧ combiningClass d < combiningClass b := ⟨h1.1, by omega⟩
      rw [placeMark, if_pos h1, placeMark, if_pos h2, placeMark, if_pos h2, placeMark, if_pos h1, ih]
    · by_cases h2 : combiningClass d ≠ 0 ∧ combiningClass d < combiningClass b
      · rw [placeMark, if_neg h1, placeMark, if_pos ⟨ha, hab⟩, placeMark, if_pos h2, placeMark, if_neg h1]
      · have h3 : ¬(combiningClass b ≠ 0 ∧ combiningClass b < combiningClass a) := by omega
        rw [placeMark, if_neg h1, placeMark, if_pos ⟨ha, hab⟩, placeMark, if_neg h2, placeMark, if_neg h3]

/-! ## All marks -/

theorem ordered_orderMarks (s : Text) : Ordered (orderMarks s) := by
  induction s with
  | nil => trivial
  | cons c s ih => exact ordered_placeMark c ih

/-- What is in order stays as it is. -/
theorem orderMarks_of_ordered {s : Text} (h : Ordered s) : orderMarks s = s := by
  induction s with
  | nil => rfl
  | cons c s ih => rw [orderMarks, ih h.2, placeMark_of_le h.1]

theorem orderMarks_append_orderMarks (x y : Text) : orderMarks (x ++ orderMarks y) = orderMarks (x ++ y) := by
  induction x with
  | nil => exact orderMarks_of_ordered (ordered_orderMarks y)
  | cons c x ih => rw [List.cons_append, List.cons_append, orderMarks, orderMarks, ih]

theorem orderMarks_perm (s : Text) : (orderMarks s).Perm s := by
  induction s with
  | nil => exact List.Perm.refl _
  | cons c s ih => exact (placeMark_perm c _).trans (ih.cons c)

theorem orderMarks_cons_starter {c : Char} (h : combiningClass c = 0) (s : Text) :
    orderMarks (c :: s) = c :: orderMarks s := placeMark_starter h _

/-- A starter parts what is sorted. -/
theorem orderMarks_append_starter {c : Char} (h : combiningClass c = 0) (x y : Text) :
    orderMarks (x ++ c :: y) = orderMarks x ++ c :: orderMarks y := by
  induction x with
  | nil => exact orderMarks_cons_starter h y
  | cons d x ih => rw [List.cons_append, orderMarks, ih, placeMark_append_starter h, orderMarks]

/-- A mark may stand in front of marks of smaller classes or behind them. -/
theorem orderMarks_cons_append {c : Char} {w : Text}
    (h : ∀ m ∈ w, combiningClass m ≠ 0 ∧ combiningClass m < combiningClass c) (s : Text) :
    orderMarks (c :: (w ++ s)) = orderMarks (w ++ c :: s) := by
  induction w with
  | nil => rfl
  | cons m w ih =>
    have hm := h m List.mem_cons_self
    rw [List.cons_append, List.cons_append, orderMarks, orderMarks, placeMark_comm hm.1 hm.2, ← orderMarks,
      ih fun k hk => h k (List.mem_cons_of_mem _ hk), ← orderMarks]

/-- A text that begins with a mark does so when it is in order. -/
theorem orderMarks_cons_mark {c : Char} (h : combiningClass c ≠ 0) (s : Text) :
    ∃ m r, orderMarks (c :: s) = m :: r ∧ combiningClass m ≠ 0 := by
  obtain ⟨w, r, he, hw⟩ := placeMark_eq c (orderMarks s)
  cases w with
  | nil => exact ⟨c, r, he, h⟩
  | cons m w => exact ⟨m, w ++ c :: r, he, (hw m List.mem_cons_self).1⟩

end Coursebook.Text
