/-
Reading an environment back. A body without tags of its name ends at the
closing tag behind it, whatever follows that tag (`read?_append`).
-/
import Coursebook.Math.Environment
import Coursebook.Proofs.Text.Search

namespace Coursebook.Environment

/-- A control word that is not in `b` does not start in `b` either, if a backslash follows. -/
theorem not_prefix_append_backslash {w b z : Text} (hw : '\\' ∉ w) (h : ¬ '\\' :: w <:+: b) (hb : b ≠ []) :
    ¬ '\\' :: w <+: b ++ '\\' :: z := by
  intro hp
  rcases Nat.lt_or_ge b.length ('\\' :: w).length with hlt | hle
  · obtain ⟨v, hv⟩ : b <+: '\\' :: w :=
      List.prefix_of_prefix_length_le (List.prefix_append b ('\\' :: z)) hp (by omega)
    cases b with
    | nil => exact hb rfl
    | cons c b =>
      -- The word would run into the backslash behind `b`, and it has only one of its own.
      simp only [List.cons_append, List.cons.injEq] at hv
      obtain ⟨rfl, rfl⟩ := hv
      simp only [List.cons_append, List.cons_prefix_cons, true_and, List.prefix_append_right_inj] at hp
      cases v with
      | nil => simp at hlt
      | cons d v =>
        obtain ⟨rfl, -⟩ := List.cons_prefix_cons.1 hp
        simp at hw
  · exact h (List.prefix_of_prefix_length_le hp (List.prefix_append b _) hle).isInfix

/-- A text without the tags of environments. -/
structure NoTags (b : Text) : Prop where
  noBegin : ¬['\\', 'b', 'e', 'g', 'i', 'n'] <:+: b
  noEnd : ¬['\\', 'e', 'n', 'd'] <:+: b

theorem NoTags.of_suffix {t b : Text} (h : NoTags b) (ht : t <:+ b) : NoTags t where
  noBegin := fun hi => h.noBegin (hi.trans ht.isInfix)
  noEnd := fun hi => h.noEnd (hi.trans ht.isInfix)

theorem openTag_eq (name : Text) : openTag name = ['\\', 'b', 'e', 'g', 'i', 'n'] ++ '{' :: (name ++ ['}']) := by
  simp [openTag, beginMark]

theorem closeTag_eq (name : Text) : closeTag name = ['\\', 'e', 'n', 'd'] ++ '{' :: (name ++ ['}']) := by
  simp [closeTag, endMark]

theorem NoTags.not_prefix_openTag {b : Text} (h : NoTags b) (hb : b ≠ []) (name z : Text) :
    ¬openTag name <+: b ++ '\\' :: z := by
  rw [openTag_eq]
  exact fun hp => not_prefix_append_backslash (by decide) h.noBegin hb ((List.prefix_append _ _).trans hp)

theorem NoTags.not_prefix_closeTag {b : Text} (h : NoTags b) (hb : b ≠ []) (name z : Text) :
    ¬closeTag name <+: b ++ '\\' :: z := by
  rw [closeTag_eq]
  exact fun hp => not_prefix_append_backslash (by decide) h.noEnd hb ((List.prefix_append _ _).trans hp)

/-- No tag of one name starts in `b`, even if a backslash follows. -/
def NoTagOf (name b : Text) : Prop :=
  ∀ t, t <:+ b → t ≠ [] → ∀ z, ¬openTag name <+: t ++ '\\' :: z ∧ ¬closeTag name <+: t ++ '\\' :: z

theorem NoTagOf.tail {name b : Text} {c : Char} (h : NoTagOf name (c :: b)) : NoTagOf name b :=
  fun t ht => h t (ht.trans (List.suffix_cons c b))

theorem NoTags.noTagOf {b : Text} (h : NoTags b) (name : Text) : NoTagOf name b := fun _ ht hne z =>
  ⟨(h.of_suffix ht).not_prefix_openTag hne name z, (h.of_suffix ht).not_prefix_closeTag hne name z⟩

/-- A name without a backslash has tags that hold one backslash only. -/
theorem noTagOf_of_not_infix {name b : Text} (hn : '\\' ∉ name) (hopen : ¬openTag name <:+: b)
    (hclose : ¬closeTag name <:+: b) : NoTagOf name b := by
  intro t ht hne z
  have hopen : ¬openTag name <:+: t := fun hi => hopen (hi.trans ht.isInfix)
  have hclose : ¬closeTag name <:+: t := fun hi => hclose (hi.trans ht.isInfix)
  rw [openTag_eq] at hopen ⊢
  rw [closeTag_eq] at hclose ⊢
  exact ⟨not_prefix_append_backslash (by simp [hn]) hopen hne, not_prefix_append_backslash (by simp [hn]) hclose hne⟩

/-- A body without tags of its name ends at the closing tag behind it. -/
theorem cut?_append {name b : Text} (h : NoTagOf name b) (r : Text) : cut? name (b ++ closeTag name ++ r) = some (b, r) := by
  obtain ⟨z, hz⟩ : ∃ z, closeTag name ++ r = '\\' :: z := ⟨_, rfl⟩
  rw [cut?, List.append_assoc, hz]
  induction b with
  | nil =>
    rw [List.nil_append, cutBody?]
    have hr := Text.after?_append (closeTag name) r
    rw [hz] at hr
    split
    · next r' h' =>
      rw [hr, Option.some.injEq] at h'
      simp [h']
    · next h' => simp [hr] at h'
  | cons c b ih =>
    obtain ⟨hopen, hclose⟩ := h _ List.suffix_rfl (List.cons_ne_nil c b) z
    rw [← Text.after?_eq_none_iff, List.cons_append] at hopen hclose
    rw [List.cons_append, cutBody?]
    split
    · next r' hr => simp [hclose] at hr
    split
    · next r' hr => simp [hopen] at hr
    · rw [ih h.tail]
      rfl

/-- **An environment is read back** as it was written. -/
theorem read?_append {name b : Text} (hn : '}' ∉ name) (h : NoTagOf name b) (r : Text) :
    read? (openTag name ++ b ++ closeTag name ++ r) = some (name, b, r) := by
  have hname : Text.cut? ['}'] (name ++ ['}'] ++ (b ++ closeTag name ++ r)) = some (name, b ++ closeTag name ++ r) := by
    refine Text.cut?_append fun t hne ht hp => ?_
    cases t with
    | nil => exact hne rfl
    | cons c t =>
      obtain ⟨rfl, -⟩ := List.cons_prefix_cons.1 hp
      exact hn (ht.subset List.mem_cons_self)
  have hs : openTag name ++ b ++ closeTag name ++ r = beginMark ++ (name ++ ['}'] ++ (b ++ closeTag name ++ r)) := by
    simp [openTag]
  rw [read?, hs, Text.after?_append]
  simp only [Option.bind_eq_bind, Option.bind_some, hname, cut?_append h r]
  rfl

end Coursebook.Environment
