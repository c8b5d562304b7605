/-
Finding damage and repairing it are two passes over a text, and they see the
same (`repair_agrees`): the repair counts what is found, writes what was
meant in its place, copies everything else, and leaves nothing to be found.

The guard looks at the text as it was and not at what was already written,
so a repair could uncover the damage behind it. That it does not is a fact
about the catalogue (`catalogue_clears`); that damage never starts inside
other damage (`Local`) makes what is found complete.
-/
import Coursebook.Proofs.Integrity.Sanitize
import Coursebook.Proofs.Text.Match

namespace Coursebook.Corruption

open Text (Match InOrder gaps weave)

/-- What is found in a text and what its repair gives, a text and a number, belong together. -/
structure Agrees (e : Corruption) (s : Text) (repaired : Text × Nat) : Prop where
  found : ∀ m ∈ e.findAll s, m.Valid e.read? s ∧ e.guarded s m.start = false
  inOrder : InOrder (e.findAll s)
  complete : ∀ i < s.length, (e.read? (s.drop i)).isSome = true → e.guarded s i = false →
    ∃ m ∈ e.findAll s, m.start = i
  count : repaired.2 = (e.findAll s).length
  result : repaired.1 = e.repair s
  -- the same stretches around the matches, once with what was read and once with what was meant
  original : s = weave (gaps s 0 (e.findAll s)) ((e.findAll s).map (Match.source s))
  rewritten : repaired.1 = weave (gaps s 0 (e.findAll s)) ((e.findAll s).map Match.value)
  clear : e.findAll repaired.1 = []
  unchanged : repaired.2 = 0 ↔ repaired.1 = s

variable {e : Corruption} {head : Text}

/-! ## The two passes -/

theorem repairEach_eq (e : Corruption) (s : Text) (cursor : Nat) (ms : List (Match Text)) :
    let found := ms.filter fun m => !e.guarded s m.start
    e.repairEach s cursor ms = (repairFrom s cursor found, found.length) := by
  induction ms generalizing cursor with
  | nil => rfl
  | cons m ms ih =>
    rw [repairEach, List.filter_cons]
    cases e.guarded s m.start with
    | true => exact ih cursor
    | false =>
      simp only [Bool.false_eq_true, if_false, Bool.not_false, if_true, ih, repairFrom, List.length_cons]

/-- **The pass that counts repairs what is found.** -/
theorem repairCounted_eq (e : Corruption) (s : Text) : e.repairCounted s = (e.repair s, (e.findAll s).length) :=
  repairEach_eq e s 0 (Text.findAll e.read? s)

theorem repairFrom_eq_weave (s : Text) (cursor : Nat) (ms : List (Match Text)) :
    repairFrom s cursor ms = weave (gaps s cursor ms) (ms.map Match.value) := by
  induction ms generalizing cursor with
  | nil => simp [repairFrom, gaps, weave]
  | cons m ms ih => rw [repairFrom, ih, gaps, List.map_cons, weave, List.append_assoc]

/-! ## What is found -/

/-- No damage starts inside a match. -/
theorem Local.read_inside (h : e.Local head) {s : Text} {m : Match Text} (hm : m.Valid e.read? s) {i : Nat}
    (hstart : m.start < i) (hstop : i < m.stop) : e.read? (s.drop i) = none := by
  have hbounded := hm.bounded
  have hread := hm.read
  rw [List.drop_eq_getElem_cons (by omega)] at hread
  obtain ⟨w, hw, -, hnone⟩ := h hread
  have hlength := congrArg List.length hw
  rw [List.length_append, List.length_drop, List.length_drop] at hlength
  have hdrop : s.drop i = w.drop (i - (m.start + 1)) ++ s.drop m.stop := by
    rw [← List.drop_append_of_le_length (by omega), ← hw, List.drop_drop]
    congr 1
    omega
  rw [hdrop]
  refine hnone _ (fun hnil => ?_) (List.drop_suffix _ w)
  have := List.drop_eq_nil_iff.1 hnil
  omega

theorem mem_findAll {s : Text} {m : Match Text} :
    m ∈ e.findAll s ↔ m ∈ Text.findAll e.read? s ∧ e.guarded s m.start = false := by
  rw [findAll, List.mem_filter, Bool.not_eq_true']

/-- Damage that the guard lets pass is found where it starts. -/
theorem Local.exists_found (h : e.Local head) {s : Text} {i : Nat} (hi : i < s.length)
    (hread : (e.read? (s.drop i)).isSome = true) (hguard : e.guarded s i = false) : ∃ m ∈ e.findAll s, m.start = i := by
  have hsearch := Text.search_findAll h.reads s
  obtain ⟨m, hm, hstart, hstop⟩ := hsearch.exhaustive i (Nat.zero_le i) hi hread
  rcases Nat.eq_or_lt_of_le hstart with rfl | hinside
  · exact ⟨m, mem_findAll.2 ⟨hm, hguard⟩, rfl⟩
  · rw [h.read_inside (hsearch.valid m hm) hinside hstop] at hread
    cases hread

/-- **Finding and repairing agree** on every kind of damage of the catalogue. -/
theorem repair_agrees (he : e ∈ catalogue) (s : Text) : Agrees e s (e.repairCounted s) := by
  obtain ⟨_, _, _, head, hshape⟩ := shape_of_mem e he
  have hlocal : e.Local head := hshape.isLocal
  have hsearch := Text.search_findAll hlocal.reads s
  have hfound : ∀ m ∈ e.findAll s, m.Valid e.read? s ∧ e.guarded s m.start = false := fun m hm =>
    (mem_findAll.1 hm).imp_left (hsearch.valid m)
  have horder : InOrder (e.findAll s) := hsearch.inOrder.filter _
  have hclear : e.findAll (e.repair s) = [] := (findAll_eq_nil_iff hlocal _).2 (catalogue_clears e he s)
  rw [repairCounted_eq]
  exact {
    found := hfound
    inOrder := horder
    complete := fun i hi => hlocal.exists_found hi
    count := rfl
    result := rfl
    original := by
      have hvalid : ∀ m ∈ e.findAll s, m.start ≤ m.stop := fun m hm => Nat.le_of_lt (hfound m hm).1.nonempty
      exact (Text.weave_sources hvalid horder fun m _ => Nat.zero_le m.start).symm
    rewritten := repairFrom_eq_weave s 0 _
    clear := hclear
    unchanged := by
      constructor
      · intro hcount
        exact Integrity.repair_eq_self (List.length_eq_zero_iff.1 hcount)
      · intro hsame
        -- an unchanged text is a repaired one, in which nothing is found
        have hsame : e.repair s = s := hsame
        rw [hsame] at hclear
        exact List.length_eq_zero_iff.2 hclear }

/-- Of two doubled backslashes the first stands behind a third one, which the guard stops. -/
theorem repair_agrees_backslashes :
    doubledBackslash ∈ catalogue ∧
      Agrees doubledBackslash "\\\\\\frac\\\\frac\x7b1\x7d".toList ("\\\\\\frac\\frac\x7b1\x7d".toList, 1) := by
  have hmem : doubledBackslash ∈ catalogue := by simp [catalogue]
  have hrepair : doubledBackslash.repairCounted "\\\\\\frac\\\\frac\x7b1\x7d".toList =
      ("\\\\\\frac\\frac\x7b1\x7d".toList, 1) := by cbv
  refine ⟨hmem, ?_⟩
  rw [← hrepair]
  exact repair_agrees hmem _

end Coursebook.Corruption
