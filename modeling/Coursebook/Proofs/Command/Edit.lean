/-
What the lowering passes do to masked prose, as edits. There are three of
them: a piece of macro syntax is exchanged for a piece of markup, options
in brackets are dropped with all that they hold, and a call with nothing
inside its braces is dropped. Texts are related by `Lowers` if edits lead
from one to the other; options are dropped only while lists are laid out.

Each edit is answered for once: it keeps the formulas and dollars of a text
(`Edit.thinner`), and it brings no backslash in (`Edit.count_le`). The edits
that exchange white space for white space keep all that a reader notes down
(`Respaces.reads`).
-/
import Coursebook.Proofs.Command.Reading
import Coursebook.Proofs.Text.Ascii
import Mathlib.Logic.Relation

namespace Coursebook.Command

open Segment (maskOpen maskClose placeholder)

/-! ## Pieces -/

/-- Macro syntax and white space: no dollar, no bracket, and no part of a placeholder. -/
def Plain (w : Text) : Prop := ∀ c ∈ w, IsCut c ∧ c ≠ '$' ∧ c ≠ '['

/-- Markup: nothing in it means anything to the reader, and it does not start with a letter. -/
def Inert (v : Text) : Prop :=
  (∀ c ∈ v, c ∉ ['\\', '$', '{', '}', '[', maskOpen, maskClose]) ∧ ∀ c ∈ v.head?, Text.isAsciiLetter c = false

instance : DecidablePred Plain := fun w => List.decidableBAll (fun c => IsCut c ∧ c ≠ '$' ∧ c ≠ '[') w

instance : DecidablePred Inert := fun v =>
  decidable_of_iff ((v.all fun c => c ∉ ['\\', '$', '{', '}', '[', maskOpen, maskClose]) = true ∧
    v.head?.all (!Text.isAsciiLetter ·) = true) (by cases v <;> simp [Inert])

theorem Plain.append {w v : Text} (hw : Plain w) (hv : Plain v) : Plain (w ++ v) := fun c hc =>
  (List.mem_append.1 hc).elim (hw c) (hv c)

theorem Inert.append {w v : Text} (hw : Inert w) (hv : Inert v) : Inert (w ++ v) where
  left c hc := (List.mem_append.1 hc).elim (hw.1 c) (hv.1 c)
  right := by
    cases w with
    | nil => exact hv.2
    | cons d w => exact hw.2

theorem Plain.isCut {w : Text} (hw : Plain w) : ∀ c ∈ w, IsCut c := fun c hc => (hw c hc).1

theorem ne_of_isBlank {c d : Char} (hc : Text.isBlank c = true) (hd : Text.isBlank d = false) : c ≠ d := by
  rintro rfl
  simp [hd] at hc

theorem isCut_of_isBlank {c : Char} (hc : Text.isBlank c = true) : IsCut c := by
  refine ⟨ne_of_isBlank hc (by decide), ne_of_isBlank hc (by decide), ?_⟩
  cases hd : Text.isAsciiDigit c with
  | false => rfl
  | true =>
    have : Text.isAsciiAlphanumeric c = true := by simp [Text.isAsciiAlphanumeric, hd]
    rw [Text.isBlank_of_alphanumeric this] at hc
    exact absurd hc (by simp)

theorem plain_of_isBlankText {w : Text} (hw : Text.isBlankText w = true) : Plain w := fun c hc => by
  have hc := List.all_eq_true.1 hw c hc
  exact ⟨isCut_of_isBlank hc, ne_of_isBlank hc (by decide), ne_of_isBlank hc (by decide)⟩

theorem inert_of_isBlankText {v : Text} (hv : Text.isBlankText v = true) : Inert v := by
  have hblank : ∀ c ∈ v, Text.isBlank c = true := List.all_eq_true.1 hv
  refine ⟨fun c hc hmem => ?_, fun c hc => ?_⟩
  · have hnone : (['\\', '$', '{', '}', '[', maskOpen, maskClose].all (!Text.isBlank ·)) = true := by decide
    simpa [hblank c hc] using List.all_eq_true.1 hnone c hmem
  · cases hl : Text.isAsciiLetter c with
    | false => rfl
    | true =>
      have := Text.isBlank_of_alphanumeric (Text.isAsciiAlphanumeric_of_letter hl)
      exact absurd (hblank c (List.mem_of_mem_head? hc)) (by simp [this])

theorem inert_replicate {c : Char} (hc : Inert [c]) (n : Nat) : Inert (List.replicate n c) where
  left d hd := by
    rw [List.eq_of_mem_replicate hd]
    exact hc.1 c List.mem_cons_self
  right d hd := by
    rw [List.eq_of_mem_replicate (List.mem_of_mem_head? hd)]
    exact hc.2 c rfl

theorem Inert.backslash_not_mem {v : Text} (hv : Inert v) : '\\' ∉ v := fun h => absurd (hv.1 _ h) (by simp)

theorem Inert.count_backslash {v : Text} (hv : Inert v) : v.count '\\' = 0 :=
  List.count_eq_zero.2 hv.backslash_not_mem

/-! ## Reading a piece -/

/-- Whether a character stands in no tag of a list. -/
def Apart (c : Char) : Prop := ∀ tag ∈ listTags, c ∉ tag

instance : DecidablePred Apart := fun c => inferInstanceAs (Decidable (∀ tag ∈ listTags, c ∉ tag))

theorem apart_of_isBlank {c : Char} (hc : Text.isBlank c = true) : Apart c := fun tag htag hmem => by
  have hnone : ∀ tag ∈ listTags, tag.all (!Text.isBlank ·) = true := by decide
  simpa [hc] using List.all_eq_true.1 (hnone tag htag) c hmem

namespace Tag

def after (g : Tag) (s : Text) : Tag := s.foldl next g

theorem after_listTag {tag : Text} (htag : tag ∈ listTags) (g : Tag) : g.after tag = behind := by
  -- The backslash at the head of a tag starts it anew.
  have hread : ∀ tag ∈ listTags, ∃ t, tag = '\\' :: t ∧ after (reading ['\\']) t = behind := by
    simp only [listTags, ListBlock.kinds, List.flatMap_cons, List.flatMap_nil, List.cons_append, List.nil_append,
      List.forall_mem_cons]
    exact ⟨⟨_, rfl, by decide⟩, ⟨_, rfl, by decide⟩, ⟨_, rfl, by decide⟩, ⟨_, rfl, by decide⟩, by simp⟩
  obtain ⟨t, rfl, ht⟩ := hread tag htag
  exact ht

theorem next_of_apart {c : Char} (hb : c ≠ '\\') (hc : Apart c) (g : Tag) :
    g.next c = if g = behind ∧ Text.isBlank c then behind else idle := by
  have htag : ∀ t : Text, t ++ [c] ∉ listTags := fun t ht => hc _ ht (by simp)
  have hprefix : ¬∃ t tag, tag ∈ listTags ∧ t ++ [c] <+: tag := by
    rintro ⟨t, tag, htag, hp⟩
    exact hc tag htag (hp.subset (by simp))
  cases g with
  | idle => simp [next, hb]
  | reading t =>
    have : ¬∃ tag ∈ listTags, t ++ [c] <+: tag := fun h => hprefix ⟨t, h⟩
    simp only [next, if_neg hb, if_neg (htag t), if_neg this]
    simp
  | behind => simp [next, hb]

theorem after_idle {v : Text} (hv : '\\' ∉ v) : after idle v = idle := by
  induction v with
  | nil => rfl
  | cons c v ih =>
    rw [List.mem_cons, not_or] at hv
    rw [after, List.foldl_cons, next, if_neg (Ne.symm hv.1)]
    exact ih hv.2

theorem after_behind {v : Text} (hv : '\\' ∉ v) : after behind v = if Text.isBlankText v then behind else idle := by
  induction v with
  | nil => rfl
  | cons c v ih =>
    rw [List.mem_cons, not_or] at hv
    rw [after, List.foldl_cons, next, if_neg (Ne.symm hv.1), ← after]
    cases hc : Text.isBlank c with
    | true => simpa [Text.isBlankText, hc] using ih hv.2
    | false => simpa [Text.isBlankText, hc] using after_idle hv.2

/-- Behind a piece that starts apart from the tags the reader is in none of them; he is behind one still
if the piece is white space. -/
theorem after_of_apart {c : Char} {v : Text} (hv : '\\' ∉ c :: v) (hc : Apart c) (g : Tag) :
    after g (c :: v) = if g = behind ∧ Text.isBlankText (c :: v) then behind else idle := by
  have hb : c ≠ '\\' := fun h => hv (h ▸ List.mem_cons_self)
  have htail : '\\' ∉ v := fun h => hv (List.mem_cons_of_mem c h)
  rw [after, List.foldl_cons, next_of_apart hb hc, ← after]
  by_cases hg : g = behind ∧ Text.isBlank c
  · rw [if_pos hg, after_behind htail]
    simp [hg, Text.isBlankText]
  · rw [if_neg hg, after_idle htail]
    rw [not_and, Bool.not_eq_true] at hg
    by_cases hbehind : g = behind
    · simp [hbehind, hg hbehind, Text.isBlankText]
    · simp [hbehind]

end Tag

namespace Place

theorem tag_after (p : Place) (s : Text) : (p.after s).tag = p.tag.after s := by
  induction s generalizing p with
  | nil => rfl
  | cons c s ih => exact ih (p.next c)

/-- Text that means nothing to the reader, unless it starts with a letter behind two backslashes. -/
theorem seen_eq_nil {v : Text} {p : Place} (hv : ∀ c ∈ v, c ∉ ['\\', '$', '{', '}', '[', maskOpen, maskClose])
    (hstart : ∀ c ∈ v.head?, Text.isAsciiLetter c = false ∨ p.doubled = false) : p.seen v = [] := by
  induction v generalizing p with
  | nil => rfl
  | cons c v ih =>
    obtain ⟨hc, hv⟩ := List.forall_mem_cons.1 hv
    simp only [List.mem_cons, List.not_mem_nil, or_false, not_or] at hc
    have hmarks : p.marks c = [] := List.eq_nil_iff_forall_not_mem.2 fun m hm => by
      rcases hstart c rfl with hl | hp <;> simp_all [mem_marks_iff]
    rw [seen, hmarks, ih hv fun d _ => .inr (by simp [hc.1]), List.nil_append]

theorem seen_inert {v : Text} (hv : Inert v) (p : Place) : p.seen v = [] :=
  seen_eq_nil hv.1 fun c hc => .inl (hv.2 c hc)

/-- Macro syntax holds no dollars, no formulas and no options. -/
theorem kept_seen_plain {w : Text} (hw : Plain w) (p : Place) (lists : Bool) : kept lists (p.seen w) = [] := by
  induction w generalizing p with
  | nil => rfl
  | cons c w ih =>
    obtain ⟨⟨-, hd, hb⟩, hw⟩ := List.forall_mem_cons.1 hw
    rw [seen, kept_append, ih hw, List.append_nil]
    refine List.filter_eq_nil_iff.2 fun m hm => ?_
    rcases mem_marks_iff.1 hm with ⟨-, hc⟩ | ⟨-, hc, -⟩ | ⟨-, hc, -⟩ | ⟨rfl, -⟩ | ⟨rfl, -⟩
    · exact absurd hc hd
    · exact absurd hc hb
    · exact absurd hc hb
    all_goals simp [Mark.isKept]

theorem solid_seen_plain {w : Text} (hw : Plain w) (p : Place) : solid (p.seen w) = [] := by
  rw [← solid_kept false, kept_seen_plain hw]
  rfl

/-- Behind a character that is no backslash nothing is escaped. -/
theorem run_after_concat {c : Char} (hc : c ≠ '\\') (p : Place) (w : Text) : (p.after (w ++ [c])).run = .none := by
  rw [after_append, after_cons, after_nil, next, if_neg hc]

theorem of_run_none {p : Place} (h : p.run = .none) : p.escaped = false ∧ p.paired = false ∧ p.doubled = false := by
  simp [escaped, paired, doubled, h]

theorem after_inert {v : Text} (hv : Inert v) (hne : v ≠ []) (p : Place) :
    p.after v = ⟨.none, false, p.tag.after v⟩ := by
  obtain ⟨w, c, rfl⟩ := List.eq_nil_or_concat v |>.resolve_left hne
  rw [List.concat_eq_append] at hv ⊢
  have hc := hv.1 c (by simp)
  simp only [List.mem_cons, List.not_mem_nil, or_false, not_or] at hc
  have hopened : (p.after (w ++ [c])).opened = false := by
    rw [after_append, after_cons, after_nil, opened_next]
    simp [hc.2.2.1]
  exact Place.ext (run_after_concat hc.1 p w) hopened (p.tag_after _)

/-- White space leaves every reader at the same place, but for the tag that he is behind. -/
theorem after_blank {v : Text} (hv : Text.isBlankText v = true) (hne : v ≠ []) (p : Place) :
    p.after v = ⟨.none, false, if p.tag = .behind then .behind else .idle⟩ := by
  have hinert := inert_of_isBlankText hv
  cases v with
  | nil => exact absurd rfl hne
  | cons c v =>
    have hc : Text.isBlank c = true := List.all_eq_true.1 hv c List.mem_cons_self
    rw [after_inert hinert hne, Tag.after_of_apart hinert.backslash_not_mem (apart_of_isBlank hc)]
    simp [hv]

end Place

/-! ## Exchanging -/

/-- Whether a piece of macro syntax ends, so that it does not escape what follows. -/
def Ends (w : Text) : Prop := ∃ u c, w = u ++ [c] ∧ c ≠ '\\'

theorem Ends.append_left {w : Text} (h : Ends w) (a : Text) : Ends (a ++ w) := by
  obtain ⟨u, c, rfl, hc⟩ := h
  exact ⟨a ++ u, c, by simp, hc⟩

theorem Ends.append_blank {w b : Text} (h : Ends w) (hb : Text.isBlankText b = true) : Ends (w ++ b) := by
  rcases List.eq_nil_or_concat b with rfl | ⟨u, c, rfl⟩
  · simpa using h
  · have hc : Text.isBlank c = true := List.all_eq_true.1 hb c (by simp)
    exact ⟨w ++ u, c, by simp, ne_of_isBlank hc (by decide)⟩

theorem Ends.run_after {w : Text} (h : Ends w) (p : Place) : (p.after w).run = .none := by
  obtain ⟨u, c, rfl, hc⟩ := h
  exact p.run_after_concat hc u

/-- Macro syntax and the markup it is exchanged for. -/
structure Exchange (lists : Bool) (w v : Text) : Prop where
  left_ne_nil : w ≠ []
  right_ne_nil : v ≠ []
  plain : Plain w
  inert : Inert v
  below : ∀ p : Place, (p.after v).Below lists (p.after w)

namespace Exchange

variable {lists : Bool} {w v : Text}

theorem of_ends (hw : Plain w) (hends : Ends w) (hv : Inert v) (hne : v ≠ [])
    (htag : lists = true → ∀ p : Place, (p.after v).tag = (p.after w).tag ∨ (p.after v).tag = .idle) :
    Exchange lists w v where
  left_ne_nil := by
    obtain ⟨u, c, rfl, -⟩ := hends
    simp
  right_ne_nil := hne
  plain := hw
  inert := hv
  below p := by
    have hafter := Place.of_run_none (hends.run_after p)
    refine ⟨?_, ?_, fun hlists => htag hlists p⟩
    · rw [Place.after_inert hv hne, hafter.1]
      rfl
    · rw [Place.after_inert hv hne, hafter.2.1]
      rfl

/-- When no lists are left, any markup may stand for any macro syntax that ends. -/
theorem of_ends_false (hw : Plain w) (hends : Ends w) (hv : Inert v) (hne : v ≠ []) : Exchange false w v :=
  .of_ends hw hends hv hne (by simp)

/-- Markup that is more than white space leads out of the tags of lists. -/
theorem marker {c : Char} (hw : Plain w) (hends : Ends w) (hv : Inert (c :: v)) (hc : Apart c)
    (hb : Text.isBlankText (c :: v) = false) : Exchange lists w (c :: v) := by
  refine .of_ends hw hends hv (by simp) fun _ p => .inr ?_
  rw [Place.tag_after, Tag.after_of_apart hv.backslash_not_mem hc]
  simp [hb]

/-- White space may stand for what ends in the tag of a list. -/
theorem listTag (hw : Plain w) (hends : Ends w) (htag : ∀ p : Place, (p.after w).tag = .behind)
    (hv : Text.isBlankText v = true) (hne : v ≠ []) : Exchange lists w v := by
  refine .of_ends hw hends (inert_of_isBlankText hv) hne fun _ p => ?_
  rw [htag, Place.after_blank hv hne]
  split
  · exact .inl rfl
  · exact .inr rfl

theorem blank (hw : Text.isBlankText w = true) (hv : Text.isBlankText v = true) (hwne : w ≠ []) (hvne : v ≠ []) :
    Exchange lists w v where
  left_ne_nil := hwne
  right_ne_nil := hvne
  plain := plain_of_isBlankText hw
  inert := inert_of_isBlankText hv
  below p := by
    rw [Place.after_blank hw hwne, Place.after_blank hv hvne]
    exact .refl lists _

end Exchange

/-! ## Edits -/

/-- A call with nothing inside its braces: a control word, and braces. -/
structure Hollow (w : Text) : Prop where
  word : ∃ c u, w = '\\' :: c :: u ∧ Text.isAsciiLetter c = true
  plain : Plain w
  ends : Ends w
  hollow : ∀ p : Place, .hollow ∈ p.seen w

inductive Edit (lists : Bool) : Text → Text → Prop where
  | exchange (a : Text) {w v : Text} (b : Text) (h : Exchange lists w v) : Edit lists (a ++ (w ++ b)) (a ++ (v ++ b))
  | dropOption (a : Text) {w : Text} (u b : Text) (hlists : lists = true) (hw : Plain w) (hends : Ends w)
    (htag : ∀ p : Place, (p.after w).tag = .behind) :
    Edit lists (a ++ (w ++ '[' :: (u ++ '\n' :: b))) (a ++ ('\n' :: '\n' :: b))
  | dropHollow (a : Text) {w : Text} (b : Text) (hlists : lists = false) (h : Hollow w) :
    Edit lists (a ++ (w ++ b)) (a ++ b)

/-- Edits lead from the first text to the second. Options are dropped while lists are laid out. -/
abbrev Lowers (lists : Bool) : Text → Text → Prop := Relation.ReflTransGen (Edit lists)

theorem Edit.context {lists : Bool} {x y : Text} (h : Edit lists x y) (a b : Text) :
    Edit lists (a ++ (x ++ b)) (a ++ (y ++ b)) := by
  cases h with
  | exchange a' b' h =>
    have := Edit.exchange (a ++ a') (b' ++ b) h
    simpa using this
  | dropOption a' u b' hlists hw hends htag =>
    have := Edit.dropOption (a ++ a') u (b' ++ b) hlists hw hends htag
    simpa using this
  | dropHollow a' b' hlists h =>
    have := Edit.dropHollow (a ++ a') (b' ++ b) hlists h
    simpa using this

namespace Lowers

variable {lists : Bool} {x y x' y' : Text}

theorem context (h : Lowers lists x y) (a b : Text) : Lowers lists (a ++ (x ++ b)) (a ++ (y ++ b)) :=
  Relation.ReflTransGen.lift (fun t => a ++ (t ++ b)) (fun _ _ (h : Edit lists _ _) => h.context a b) x y h

theorem append (h : Lowers lists x y) (h' : Lowers lists x' y') : Lowers lists (x ++ x') (y ++ y') := by
  have h₁ : Lowers lists (x ++ x') (y ++ x') := h.context [] x'
  have h₂ : Lowers lists (y ++ x') (y ++ y') := by simpa using h'.context y []
  exact h₁.trans h₂

theorem exchange (h : Exchange lists x y) : Lowers lists x y := by
  have := Edit.exchange [] [] h
  simpa using Relation.ReflTransGen.single this

end Lowers

/-! ## What edits keep -/

/-- Whether no call goes that takes the other half of an escape along: no braces are hollow, or no word is
behind two backslashes. -/
def Clean (ms : List Mark) : Prop := .hollow ∉ ms ∨ .doubled ∉ ms

theorem Clean.of_append {ms₁ ms₂ ms ms' : List Mark} (h : Clean (ms₁ ++ (ms₂ ++ ms)))
    (hh : .hollow ∉ ms → .hollow ∉ ms') (hd : .doubled ∉ ms → .doubled ∉ ms') : Clean (ms₁ ++ ms') := by
  simp only [Clean, List.mem_append, not_or] at h ⊢
  exact h.imp (fun h => ⟨h.1, hh h.2.2⟩) fun h => ⟨h.1, hd h.2.2⟩

/-- How the marks of an edited text are related to those of the text before: the reader finds the same
marks, or fewer if an option was dropped. -/
structure Thinner (lists : Bool) (ms' ms : List Mark) : Prop where
  indices : (indices ms').Sublist (indices ms)
  clean : Clean ms → Clean ms'
  solid : Clean ms → (solid ms').Sublist (solid ms)
  kept : Clean ms → (lists = true → .option ∉ ms) → kept lists ms' = kept lists ms

theorem Thinner.refl (lists : Bool) (ms : List Mark) : Thinner lists ms ms :=
  ⟨.refl _, id, fun _ => .refl _, fun _ _ => rfl⟩

theorem Thinner.trans {lists : Bool} {ms₁ ms₂ ms₃ : List Mark} (h : Thinner lists ms₁ ms₂)
    (h' : Thinner lists ms₂ ms₃) : Thinner lists ms₁ ms₃ where
  indices := h.indices.trans h'.indices
  clean hc := h.clean (h'.clean hc)
  solid hc := (h.solid (h'.clean hc)).trans (h'.solid hc)
  kept hc ho := by
    have hkept := h'.kept hc ho
    refine (h.kept (h'.clean hc) fun hlists => ?_).trans hkept
    have hoption : Mark.option.isKept lists = true := hlists
    rw [← mem_kept_iff hoption, hkept, mem_kept_iff hoption]
    exact ho hlists

/-- Macro syntax goes, and the reader goes on at a place like the one behind it. -/
theorem thinner_of_plain {lists : Bool} {w : Text} (hw : Plain w) {p q : Place} {ms₁ ms₂ ms₂' : List Mark}
    (hms : Retold q (p.after w) ms₂' ms₂) (hbelow : q.Below lists (p.after w))
    (hclean : Clean (ms₁ ++ (p.seen w ++ ms₂)) → Clean (ms₁ ++ ms₂')) :
    Thinner lists (ms₁ ++ ms₂') (ms₁ ++ (p.seen w ++ ms₂)) where
  indices := by simp [hms.indices]
  clean := hclean
  solid _ := by
    have hsame : solid (ms₁ ++ ms₂') = solid (ms₁ ++ (p.seen w ++ ms₂)) := by
      rw [solid_append, solid_append, solid_append, Place.solid_seen_plain hw, List.nil_append, hms.solid hbelow.escaped]
    exact hsame ▸ .refl _
  kept _ ho := by
    simp only [List.mem_append, not_or] at ho
    rw [kept_append, kept_append, kept_append, Place.kept_seen_plain hw, List.nil_append,
      hms.kept lists hbelow fun hlists => (ho hlists).2.2]

/-- Dropping an option drops what it holds. -/
theorem thinner_of_option (ms₁ : List Mark) {dropped ms ms' : List Mark} (ho : .option ∈ dropped)
    (hindices : indices ms' = indices ms) (hsolid : solid ms' = solid ms) (hhollow : .hollow ∉ ms → .hollow ∉ ms')
    (hdoubled : .doubled ∉ ms → .doubled ∉ ms') : Thinner true (ms₁ ++ ms') (ms₁ ++ (dropped ++ ms)) where
  indices := by
    rw [indices_append, indices_append, indices_append, hindices]
    exact (List.sublist_append_right _ _).append_left _
  clean hc := hc.of_append hhollow hdoubled
  solid _ := by
    rw [solid_append, solid_append, solid_append, hsolid]
    exact (List.sublist_append_right _ _).append_left _
  kept _ hopt := absurd (List.mem_append_right _ (List.mem_append_left _ ho)) (hopt rfl)

/-- A word behind a backslash is noted down if another one is in front. -/
theorem Place.doubled_mem_seen {p : Place} {c : Char} (hc : Text.isAsciiLetter c = true) (u : Text)
    (hp : p.escaped = true ∨ p.paired = true) : .doubled ∈ p.seen ('\\' :: c :: u) := by
  have : .doubled ∈ (p.next '\\').marks c := by
    rw [doubled_mem_marks_iff, doubled_next]
    simpa [hc] using hp
  simp [seen, this]

/-- **An edited text can be read**, and its marks are those of the text before or fewer. -/
theorem Edit.thinner {lists : Bool} {x y : Text} (h : Edit lists x y) {p r : Place} {ms : List Mark}
    (hx : Reads p x ms r) : ∃ ms' r', Reads p y ms' r' ∧ Thinner lists ms' ms := by
  cases h with
  | @exchange a w v b h =>
    obtain ⟨q, ms₁, ms₂, ha, hb, rfl⟩ := hx.cut h.plain.isCut h.left_ne_nil
    obtain ⟨ms₂', r', hb', hms⟩ := hb.retell (q.after v)
    have hv : Reads q v (q.seen v) (q.after v) :=
      .of_not_mem q (fun hm => absurd (h.inert.1 _ hm) (by simp)) (fun hm => absurd (h.inert.1 _ hm) (by simp))
    rw [Place.seen_inert h.inert] at hv
    refine ⟨ms₁ ++ ms₂', r', ha.append (hv.append hb'), thinner_of_plain h.plain hms (h.below q) fun hc => ?_⟩
    have hafter := Place.after_inert h.inert h.right_ne_nil q
    refine hc.of_append (hms.hollow ?_) (hms.doubled (h.below q).of_lists ?_) <;> rw [hafter] <;> simp [Place.doubled]
  | @dropOption a w u b hlists hw hends htag =>
    subst hlists
    have hne : w ≠ [] := by
      obtain ⟨u, c, rfl, -⟩ := hends
      simp
    obtain ⟨q, ms₁, ms₂, ha, hbracket, rfl⟩ := hx.cut hw.isCut hne
    obtain ⟨ms₃, hinside, rfl⟩ := hbracket.cons_inv (c := '[') (by decide)
    obtain ⟨q', ms₄, ms₅, -, hline, rfl⟩ := hinside.cut_cons (c := '\n') (by decide)
    obtain ⟨ms₆, hb, rfl⟩ := hline.cons_inv (c := '\n') (by decide)
    obtain ⟨ms₆', r', hb', hms⟩ := hb.retell ((q.next '\n').next '\n')
    have hy : Reads q ('\n' :: '\n' :: b) ms₆' r' := .char (by decide) (by decide) (.char (by decide) (by decide) hb')
    have hmem : .option ∈ q.seen w ++ ((q.after w).marks '[' ++ ms₄) := by
      have := (Place.of_run_none (hends.run_after q)).2.1
      simp [Place.option_mem_marks_iff, htag q, this]
    refine ⟨ms₁ ++ ms₆', r', ha.append hy, ?_⟩
    -- Behind a line ending a reader is neither behind a backslash nor behind a brace.
    have := thinner_of_option ms₁ hmem hms.indices (hms.solid (by simp [Place.Alike])) (hms.hollow fun h => by simp at h)
      (hms.doubled ⟨by simp, by simp, by simp⟩ fun h => by simp at h)
    simpa only [List.append_assoc] using this
  | @dropHollow a w b hlists h =>
    subst hlists
    obtain ⟨c, u, hw, hc⟩ := h.word
    obtain ⟨q, ms₁, ms₂, ha, hb, rfl⟩ := hx.cut h.plain.isCut (by simp [hw])
    obtain ⟨ms₂', r', hb', hms⟩ := hb.retell q
    refine ⟨ms₁ ++ ms₂', r', ha.append hb', ?_⟩
    by_cases hclean : Clean (ms₁ ++ (q.seen w ++ ms₂))
    · -- The call is hollow, so no word in it is behind two backslashes; then none is in front of it.
      have hhollow : .hollow ∈ ms₁ ++ (q.seen w ++ ms₂) := by simp [h.hollow q]
      have hdoubled := hclean.resolve_left (not_not_intro hhollow)
      have hfree : ¬(q.escaped = true ∨ q.paired = true) := fun hq => by
        simp [hw, Place.doubled_mem_seen hc u hq] at hdoubled
      simp only [not_or, Bool.not_eq_true] at hfree
      have hafter := Place.of_run_none (h.ends.run_after q)
      have hbelow : q.Below false (q.after w) :=
        ⟨hfree.1.trans hafter.1.symm, hfree.2.trans hafter.2.1.symm, by simp⟩
      refine thinner_of_plain h.plain hms hbelow fun _ => .inr ?_
      simp only [List.mem_append, not_or] at hdoubled ⊢
      refine ⟨hdoubled.1, hms.doubled hbelow ?_ hdoubled.2.2⟩
      simp [Place.doubled_eq_false hfree.1 hfree.2]
    · exact ⟨by simp [hms.indices], fun hc => absurd hc hclean, fun hc => absurd hc hclean,
        fun hc => absurd hc hclean⟩

theorem Lowers.thinner {lists : Bool} {x y : Text} (h : Lowers lists x y) {p r : Place} {ms : List Mark}
    (hx : Reads p x ms r) : ∃ ms' r', Reads p y ms' r' ∧ Thinner lists ms' ms := by
  induction h with
  | refl => exact ⟨ms, r, hx, .refl lists ms⟩
  | tail _ h ih =>
    obtain ⟨ms₁, r₁, h₁, ht₁⟩ := ih
    obtain ⟨ms₂, r₂, h₂, ht₂⟩ := h.thinner h₁
    exact ⟨ms₂, r₂, h₂, ht₂.trans ht₁⟩

/-! ## Backslashes -/

theorem Edit.count_le {lists : Bool} {x y : Text} (h : Edit lists x y) : y.count '\\' ≤ x.count '\\' := by
  cases h with
  | exchange a b h => simp [h.inert.count_backslash]
  | dropOption a u b => simp; omega
  | dropHollow a b => simp

theorem Lowers.count_le {lists : Bool} {x y : Text} (h : Lowers lists x y) : y.count '\\' ≤ x.count '\\' := by
  induction h with
  | refl => exact Nat.le_refl _
  | tail _ h ih => exact Nat.le_trans h.count_le ih

/-- Edits that take a backslash away. -/
structure Shrinks (lists : Bool) (x y : Text) : Prop where
  lowers : Lowers lists x y
  count_lt : y.count '\\' < x.count '\\'

namespace Shrinks

variable {lists : Bool} {x y z x' y' : Text}

theorem of_exchange (h : Exchange lists x y) (hx : '\\' ∈ x) : Shrinks lists x y where
  lowers := .exchange h
  count_lt := by
    rw [h.inert.count_backslash]
    exact List.count_pos_iff.2 hx

theorem append_right (h : Shrinks lists x y) (h' : Lowers lists x' y') : Shrinks lists (x ++ x') (y ++ y') where
  lowers := h.lowers.append h'
  count_lt := by
    rw [List.count_append, List.count_append]
    have := h.count_lt
    have := h'.count_le
    omega

theorem append_left (h : Lowers lists x y) (h' : Shrinks lists x' y') : Shrinks lists (x ++ x') (y ++ y') where
  lowers := h.append h'.lowers
  count_lt := by
    rw [List.count_append, List.count_append]
    have := h.count_le
    have := h'.count_lt
    omega

theorem of_lowers (h : Lowers lists x y) (h' : Shrinks lists y z) : Shrinks lists x z where
  lowers := h.trans h'.lowers
  count_lt := Nat.lt_of_lt_of_le h'.count_lt h.count_le

theorem trans_lowers (h : Shrinks lists x y) (h' : Lowers lists y z) : Shrinks lists x z where
  lowers := h.lowers.trans h'
  count_lt := Nat.lt_of_le_of_lt h'.count_le h.count_lt

instance : Trans (Shrinks lists) (Shrinks lists) (Shrinks lists) := ⟨fun h h' => h.trans_lowers h'.lowers⟩

end Shrinks

/-! ## Passes -/

/-- What a pass makes of a text: nothing is changed if the text does not ask for it, and the result
is related to the text if it does. -/
def Outcome (R : Text → Text → Prop) (asked : Prop) (x y : Text) : Prop := ¬asked ∧ y = x ∨ asked ∧ R x y

namespace Outcome

variable {R : Text → Text → Prop} {lists : Bool} {asked asked' : Prop} {x y z : Text}

theorem congr (h : Outcome R asked x y) (hiff : asked ↔ asked') : Outcome R asked' x y := by
  rwa [Outcome, ← hiff]

theorem eq_or (h : Outcome R asked x y) : y = x ∨ R x y := h.imp And.right And.right

theorem lowers (h : Outcome (Shrinks lists) asked x y) : Lowers lists x y := by
  rcases h.eq_or with rfl | h
  · exact .refl
  · exact h.lowers

theorem mono (h : Outcome R asked x y) {S : Text → Text → Prop} (hRS : R x y → S x y) : Outcome S asked x y :=
  h.imp id (And.imp_right hRS)

theorem map {S : Text → Text → Prop} (f : Text → Text) (h : Outcome R asked x y) (hf : R x y → S (f x) (f y)) :
    Outcome S asked (f x) (f y) :=
  h.imp (And.imp_right fun heq => congrArg f heq) (And.imp_right hf)

/-- One pass after the other. -/
theorem trans [Trans R R R] (h : Outcome R asked x y) (next : Text → Prop) (h' : Outcome R (next y) y z) :
    Outcome R (asked ∨ next x) x z := by
  rcases h with ⟨hasked, rfl⟩ | ⟨hasked, h⟩
  · simpa [Outcome, hasked] using h'
  · refine .inr ⟨.inl hasked, ?_⟩
    rcases h'.eq_or with rfl | h'
    · exact h
    · exact Trans.trans h h'

/-- The passes of a table, one after the other. -/
theorem foldl [Trans R R R] {α : Type} (pass : Text → α → Text) {asked : α → Text → Prop} {table : List α}
    (h : ∀ a ∈ table, ∀ s, Outcome R (asked a s) s (pass s a)) (s : Text) :
    Outcome R (∃ a ∈ table, asked a s) s (table.foldl pass s) := by
  induction table generalizing s with
  | nil => exact .inl ⟨by simp, rfl⟩
  | cons a table ih =>
    have hhead := h a List.mem_cons_self s
    have htail := ih (fun b hb => h b (List.mem_cons_of_mem a hb)) (pass s a)
    exact (hhead.trans (fun s => ∃ b ∈ table, asked b s) htail).congr (by simp)

/-- Replacing from left to right changes a text exactly if something in it matches. -/
theorem replaceMatches {match? : Text → Option (Text × Text)} (hnil : match? [] = none)
    (hshorter : ∀ {c s out r}, match? (c :: s) = some (out, r) → r.length ≤ s.length)
    (hcons : ∀ (c : Char) {x y}, R x y → R (c :: x) (c :: y))
    (hmatch : ∀ {s out r r'}, match? s = some (out, r) → r' = r ∨ R r r' → R s (out ++ r')) (s : Text) :
    Outcome R (∃ t, t <:+ s ∧ (match? t).isSome) s (Text.replaceMatches match? s) := by
  refine Text.replaceMatches_induct (Q := fun s s' => Outcome R (∃ t, t <:+ s ∧ (match? t).isSome) s s') ?_ ?_ ?_
    hshorter s
  · exact .inl ⟨by simp [hnil], rfl⟩
  · intro c s hnone ih
    have hiff : (∃ t, t <:+ c :: s ∧ (match? t).isSome) ↔ ∃ t, t <:+ s ∧ (match? t).isSome := by
      simp only [List.suffix_cons_iff, or_and_right, exists_or, exists_eq_left, hnone, Option.isSome_none,
        Bool.false_eq_true, false_or]
    rcases ih with ⟨hasked, heq⟩ | ⟨hasked, h⟩
    · exact .inl ⟨mt hiff.1 hasked, congrArg (c :: ·) heq⟩
    · exact .inr ⟨hiff.2 hasked, hcons c h⟩
  · intro c s out r h ih
    exact .inr ⟨⟨_, List.suffix_rfl, by simp [h]⟩, hmatch h ih.eq_or⟩

end Outcome

/-! ## White space -/

/-- A piece of white space is exchanged for another. -/
inductive Respace : Text → Text → Prop where
  | blank (a : Text) {w v : Text} (b : Text) (hw : Text.isBlankText w = true) (hv : Text.isBlankText v = true)
    (hwne : w ≠ []) (hvne : v ≠ []) : Respace (a ++ (w ++ b)) (a ++ (v ++ b))

abbrev Respaces : Text → Text → Prop := Relation.ReflTransGen Respace

theorem Respace.context {x y : Text} (h : Respace x y) (a b : Text) : Respace (a ++ (x ++ b)) (a ++ (y ++ b)) := by
  cases h with
  | blank a' b' hw hv hwne hvne =>
    have := Respace.blank (a ++ a') (b' ++ b) hw hv hwne hvne
    simpa using this

namespace Respaces

variable {x y x' y' : Text}

theorem append (h : Respaces x y) (h' : Respaces x' y') : Respaces (x ++ x') (y ++ y') := by
  have h₁ : Respaces (x ++ x') (y ++ x') :=
    Relation.ReflTransGen.lift (· ++ x') (fun _ _ (h : Respace _ _) => h.context [] x') x y h
  have h₂ : Respaces (y ++ x') (y ++ y') :=
    Relation.ReflTransGen.lift (y ++ ·) (fun s t (h : Respace s t) => by simpa using h.context y []) x' y' h'
  exact h₁.trans h₂

theorem cons (c : Char) (h : Respaces x y) : Respaces (c :: x) (c :: y) := append (x := [c]) .refl h

theorem blank {w v : Text} (hw : Text.isBlankText w = true) (hv : Text.isBlankText v = true) (hwne : w ≠ [])
    (hvne : v ≠ []) : Respaces w v := by
  have := Respace.blank [] [] hw hv hwne hvne
  simpa using Relation.ReflTransGen.single this

theorem lowers (h : Respaces x y) (lists : Bool) : Lowers lists x y := by
  refine Relation.ReflTransGen.mono (fun x y (h : Respace x y) => ?_) x y h
  cases h with
  | blank a b hw hv hwne hvne => exact .exchange a b (.blank hw hv hwne hvne)

/-- **White space is read as other white space is**: the reader finds the same marks. -/
theorem reads (h : Respaces x y) {p r : Place} {ms : List Mark} (hx : Reads p x ms r) : Reads p y ms r := by
  induction h with
  | refl => exact hx
  | tail _ h ih =>
    cases h with
    | @blank a w v b hw hv hwne hvne =>
      have hplain := plain_of_isBlankText hw
      obtain ⟨q, ms₁, ms₂, ha, hb, rfl⟩ := ih.cut hplain.isCut hwne
      have hinert := inert_of_isBlankText hv
      have hread : Reads q v (q.seen v) (q.after v) :=
        .of_not_mem q (fun hm => absurd (hinert.1 _ hm) (by simp)) (fun hm => absurd (hinert.1 _ hm) (by simp))
      rw [Place.seen_inert hinert, Place.after_blank hv hvne, ← Place.after_blank hw hwne] at hread
      rw [Place.seen_inert (inert_of_isBlankText hw)]
      exact ha.append (hread.append hb)

end Respaces

end Coursebook.Command
