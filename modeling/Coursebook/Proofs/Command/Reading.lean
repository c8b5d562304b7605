/-
Masked prose, read from the left. The reader notes down what decides about
the formulas of a text: its dollars and placeholders, each with whether a
backslash escapes it, and the places where a pass may take a piece of text
with it: the bracket that may open the options of a list or the length of a
line break, and a pair of braces with nothing inside. He also notes a word
behind two backslashes, since it is behind the first one if it goes.

`Reads p t ms q` says that a reader at place `p` goes through the text `t`,
notes the marks `ms` down and ends at place `q`; it also says that every
placeholder of `t` is whole. A text can be cut in front of any character
that is no part of a placeholder (`Reads.cut_cons`), and `Reads.retell` says
how much of what is noted down depends on the place the reader starts at.
-/
import Coursebook.Command.Prose
import Coursebook.Proofs.Segment.Mask

namespace Coursebook.Command

open Segment (maskOpen maskClose placeholder)

/-! ## The reader -/

/-- The tags of list environments. -/
def listTags : List Text :=
  ListBlock.kinds.flatMap fun kind =>
    [Environment.openTag (ListBlock.environmentName kind), Environment.closeTag (ListBlock.environmentName kind)]

/-- How far the reader is in one of these tags: he has read its first characters, or all of it and
perhaps white space. -/
inductive Tag where
  | idle
  | reading (t : Text)
  | behind
deriving DecidableEq

def Tag.next (g : Tag) (c : Char) : Tag :=
  if c = '\\' then reading ['\\']
  else
    match g with
    | idle => idle
    | reading t =>
      if t ++ [c] ∈ listTags then behind
      else if ∃ tag ∈ listTags, t ++ [c] <+: tag then reading (t ++ [c])
      else idle
    | behind => if Text.isBlank c then behind else idle

/-- The backslashes the reader is behind: none, one, or more of them, an even or an odd number. -/
inductive Run where
  | none
  | one
  | even
  | odd
deriving DecidableEq

def Run.next : Run → Run
  | none => one
  | one | odd => even
  | even => odd

/-- Where the reader stands: behind backslashes, behind an opening brace, or in or behind the tag of a
list. -/
@[ext]
structure Place where
  run : Run
  opened : Bool
  tag : Tag
deriving DecidableEq

/-- What the reader notes down. -/
inductive Mark where
  | dollar (escaped : Bool)
  | formula (index : Nat) (escaped : Bool)
  | option
  | spacing
  | hollow
  | doubled
deriving DecidableEq

namespace Place

/-- The place in front of a text. -/
def free : Place := ⟨.none, false, .idle⟩

def next (p : Place) (c : Char) : Place where
  run := if c = '\\' then p.run.next else .none
  opened := c = '{'
  tag := p.tag.next c

/-- Whether the next character is escaped. -/
def escaped (p : Place) : Bool := p.run = .one || p.run = .odd

/-- Whether backslashes that escape each other stand in front. -/
def paired (p : Place) : Bool := p.run = .even

/-- Whether two backslashes stand in front. -/
def doubled (p : Place) : Bool := p.run = .even || p.run = .odd

@[simp] theorem escaped_next (p : Place) (c : Char) : (p.next c).escaped = (c = '\\' && !p.escaped) := by
  by_cases hc : c = '\\'
  · cases hrun : p.run <;> simp [escaped, next, hc, hrun, Run.next]
  · simp [escaped, next, hc]

@[simp] theorem paired_next (p : Place) (c : Char) : (p.next c).paired = (c = '\\' && p.escaped) := by
  by_cases hc : c = '\\'
  · cases hrun : p.run <;> simp [escaped, paired, next, hc, hrun, Run.next]
  · simp [paired, next, hc]

@[simp] theorem doubled_next (p : Place) (c : Char) : (p.next c).doubled = (c = '\\' && (p.escaped || p.paired)) := by
  by_cases hc : c = '\\'
  · cases hrun : p.run <;> simp [escaped, paired, doubled, next, hc, hrun, Run.next]
  · simp [doubled, next, hc]

@[simp] theorem opened_next (p : Place) (c : Char) : (p.next c).opened = decide (c = '{') := rfl

@[simp] theorem tag_next (p : Place) (c : Char) : (p.next c).tag = p.tag.next c := rfl

theorem doubled_eq_false {p : Place} (he : p.escaped = false) (hp : p.paired = false) : p.doubled = false := by
  cases hrun : p.run <;> simp_all [escaped, paired, doubled]

/-- The mark of a character. -/
def mark? (p : Place) (c : Char) : Option Mark :=
  if c = '$' then some (.dollar p.escaped)
  else if c = '[' then if p.paired then some .spacing else if p.tag = .behind then some .option else none
  else if c = '}' then if p.opened then some .hollow else none
  else if Text.isAsciiLetter c && p.doubled then some .doubled
  else none

def marks (p : Place) (c : Char) : List Mark := (p.mark? c).toList

/-- Where a text without placeholders leads. -/
def after : Place → Text → Place
  | p, [] => p
  | p, c :: s => (p.next c).after s

/-- What is noted down in a text without placeholders. -/
def seen : Place → Text → List Mark
  | _, [] => []
  | p, c :: s => p.marks c ++ (p.next c).seen s

@[simp] theorem after_nil (p : Place) : p.after [] = p := rfl

@[simp] theorem after_cons (p : Place) (c : Char) (s : Text) : p.after (c :: s) = (p.next c).after s := rfl

theorem after_append (p : Place) (s t : Text) : p.after (s ++ t) = (p.after s).after t := by
  induction s generalizing p with
  | nil => rfl
  | cons c s ih => exact ih (p.next c)

theorem seen_append (p : Place) (s t : Text) : p.seen (s ++ t) = p.seen s ++ (p.after s).seen t := by
  induction s generalizing p with
  | nil => rfl
  | cons c s ih =>
    rw [List.cons_append, seen, seen, ih, after_cons, List.append_assoc]

end Place

/-- Reading a text from one place to another. -/
inductive Reads : Place → Text → List Mark → Place → Prop where
  | nil (p : Place) : Reads p [] [] p
  | char {p q : Place} {c : Char} {s : Text} {ms : List Mark} (hopen : c ≠ maskOpen) (hclose : c ≠ maskClose)
      (h : Reads (p.next c) s ms q) : Reads p (c :: s) (p.marks c ++ ms) q
  | formula (p : Place) {q : Place} (n : Nat) {s : Text} {ms : List Mark} (h : Reads .free s ms q) :
      Reads p (placeholder n ++ s) (.formula n p.escaped :: ms) q

namespace Reads

variable {p q r : Place} {s t : Text} {ms ms' : List Mark}

theorem append (h : Reads p s ms q) (h' : Reads q t ms' r) : Reads p (s ++ t) (ms ++ ms') r := by
  induction h with
  | nil => exact h'
  | char hopen hclose _ ih =>
    rw [List.append_assoc]
    exact .char hopen hclose (ih h')
  | formula p n _ ih =>
    rw [List.append_assoc]
    exact .formula p n (ih h')

/-- A text without placeholder characters is read as its characters say. -/
theorem of_not_mem (p : Place) {s : Text} (hopen : maskOpen ∉ s) (hclose : maskClose ∉ s) :
    Reads p s (p.seen s) (p.after s) := by
  induction s generalizing p with
  | nil => exact .nil p
  | cons c s ih =>
    rw [List.mem_cons, not_or] at hopen hclose
    exact .char (Ne.symm hopen.1) (Ne.symm hclose.1) (ih (p.next c) hopen.2 hclose.2)

end Reads

/-! ## Cutting -/

/-- Whether a character is no part of a placeholder. -/
def IsCut (c : Char) : Prop := c ≠ maskOpen ∧ c ≠ maskClose ∧ Text.isAsciiDigit c = false

instance : DecidablePred IsCut := fun _ => inferInstanceAs (Decidable (_ ∧ _ ∧ _))

theorem IsCut.not_mem {c : Char} (h : IsCut c) (n : Nat) : c ∉ placeholder n := fun hmem => by
  rcases Segment.mem_placeholder hmem with hc | hc | hc
  · exact h.1 hc
  · exact h.2.1 hc
  · simp [h.2.2] at hc

namespace Reads

variable {p q r : Place} {s t : Text} {ms ms' : List Mark}

/-- A character that is no part of a placeholder is read by itself. -/
theorem cons_inv {c : Char} (hc : IsCut c) (h : Reads p (c :: s) ms q) :
    ∃ ms', Reads (p.next c) s ms' q ∧ ms = p.marks c ++ ms' := by
  generalize hs : c :: s = u at h
  cases h with
  | nil => exact absurd hs (by simp)
  | char _ _ h =>
    obtain ⟨rfl, rfl⟩ := List.cons.inj hs
    exact ⟨_, h, rfl⟩
  | formula p n h =>
    rw [Segment.placeholder_append] at hs
    exact absurd (List.cons.inj hs).1 hc.1

/-- **A text can be cut** in front of a character that is no part of a placeholder. -/
theorem cut_cons {c : Char} (hc : IsCut c) (h : Reads p (s ++ c :: t) ms r) :
    ∃ q ms₁ ms₂, Reads p s ms₁ q ∧ Reads q (c :: t) ms₂ r ∧ ms = ms₁ ++ ms₂ := by
  generalize hu : s ++ c :: t = u at h
  induction h generalizing s with
  | nil => exact absurd hu (by simp)
  | @char p r d u ms hopen hclose h ih =>
    cases s with
    | nil =>
      obtain ⟨rfl, rfl⟩ := List.cons.inj hu
      exact ⟨p, [], _, .nil p, .char hopen hclose h, rfl⟩
    | cons d' s =>
      obtain ⟨rfl, htail⟩ := List.cons.inj hu
      obtain ⟨q, ms₁, ms₂, h₁, h₂, rfl⟩ := ih htail
      exact ⟨q, _, ms₂, .char hopen hclose h₁, h₂, by simp⟩
  | @formula p r n u ms h ih =>
    -- The cut is behind the placeholder, since its character is not inside.
    rcases List.append_eq_append_iff.1 hu with ⟨w, hw, htail⟩ | ⟨w, rfl, htail⟩
    · cases w with
      | nil =>
        obtain rfl : s = placeholder n := (List.append_nil s ▸ hw).symm
        obtain rfl : c :: t = u := htail
        exact ⟨.free, [_], ms, by simpa using formula p n (.nil .free), h, rfl⟩
      | cons e w =>
        obtain ⟨rfl, -⟩ := List.cons.inj htail
        exact absurd (hw ▸ List.mem_append_right s List.mem_cons_self) (hc.not_mem n)
    · rw [List.append_assoc] at hu
      obtain ⟨q, ms₁, ms₂, h₁, h₂, rfl⟩ := ih (List.append_cancel_left hu)
      exact ⟨q, _, ms₂, by simpa using formula p n h₁, h₂, rfl⟩

/-- A piece at the head of a text whose characters are no part of placeholders. -/
theorem head_inv (hs : ∀ c ∈ s, IsCut c) (h : Reads p (s ++ t) ms q) :
    ∃ ms', Reads (p.after s) t ms' q ∧ ms = p.seen s ++ ms' := by
  induction s generalizing p ms with
  | nil => exact ⟨ms, h, rfl⟩
  | cons c s ih =>
    obtain ⟨hc, hs⟩ := List.forall_mem_cons.1 hs
    obtain ⟨ms₁, h₁, rfl⟩ := h.cons_inv hc
    obtain ⟨ms₂, h₂, rfl⟩ := ih hs h₁
    exact ⟨ms₂, h₂, (List.append_assoc _ _ _).symm⟩

/-- A piece inside of a text whose characters are no part of placeholders. -/
theorem cut {a w b : Text} (hw : ∀ c ∈ w, IsCut c) (hne : w ≠ []) (h : Reads p (a ++ (w ++ b)) ms r) :
    ∃ q ms₁ ms₂, Reads p a ms₁ q ∧ Reads (q.after w) b ms₂ r ∧ ms = ms₁ ++ (q.seen w ++ ms₂) := by
  cases w with
  | nil => exact absurd rfl hne
  | cons c w =>
    obtain ⟨q, ms₁, ms₂, h₁, h₂, rfl⟩ := h.cut_cons (hw c List.mem_cons_self)
    obtain ⟨ms₃, h₃, rfl⟩ := Reads.head_inv (s := c :: w) hw h₂
    exact ⟨q, ms₁, ms₃, h₁, h₃, rfl⟩

end Reads

/-! ## What is compared -/

/-- The index of a placeholder. -/
def Mark.index? : Mark → Option Nat
  | formula n _ => some n
  | _ => none

def indices (ms : List Mark) : List Nat := ms.filterMap Mark.index?

@[simp] theorem indices_append (ms ms' : List Mark) : indices (ms ++ ms') = indices ms ++ indices ms' :=
  List.filterMap_append

/-- The marks that decide where the formulas of a text are. -/
def Mark.isSolid : Mark → Bool
  | dollar _ | formula _ _ => true
  | _ => false

def solid (ms : List Mark) : List Mark := ms.filter Mark.isSolid

@[simp] theorem solid_append (ms ms' : List Mark) : solid (ms ++ ms') = solid ms ++ solid ms' :=
  List.filter_append ms ms'

theorem indices_solid (ms : List Mark) : indices (solid ms) = indices ms := by
  induction ms with
  | nil => rfl
  | cons m ms ih =>
    have : solid (m :: ms) = solid [m] ++ solid ms := solid_append [m] ms
    rw [this, indices_append, ih]
    cases m <;> rfl

theorem indices_sublist {ms ms' : List Mark} (h : (solid ms').Sublist (solid ms)) :
    (indices ms').Sublist (indices ms) := by
  rw [← indices_solid ms', ← indices_solid ms]
  exact h.filterMap Mark.index?

/-- What decides about formulas, and the marks of what may take formulas along: the options of lists, as
long as lists are to be laid out, and the lengths of line breaks. -/
def Mark.isKept (lists : Bool) : Mark → Bool
  | dollar _ | formula _ _ | spacing => true
  | option => lists
  | _ => false

def kept (lists : Bool) (ms : List Mark) : List Mark := ms.filter (Mark.isKept lists)

@[simp] theorem kept_append (lists : Bool) (ms ms' : List Mark) :
    kept lists (ms ++ ms') = kept lists ms ++ kept lists ms' := List.filter_append ms ms'

theorem solid_kept (lists : Bool) (ms : List Mark) : solid (kept lists ms) = solid ms := by
  rw [solid, kept, List.filter_filter]
  refine List.filter_congr fun m _ => ?_
  cases m <;> simp [Mark.isSolid, Mark.isKept]

theorem mem_kept_iff {lists : Bool} {m : Mark} {ms : List Mark} (hm : m.isKept lists = true) :
    m ∈ kept lists ms ↔ m ∈ ms := by simp [kept, hm]

/-! ## The marks of a character -/

namespace Place

variable {p q : Place} {c : Char}

theorem mem_marks_iff {m : Mark} : m ∈ p.marks c ↔ m = .dollar p.escaped ∧ c = '$' ∨
    m = .spacing ∧ c = '[' ∧ p.paired = true ∨ m = .option ∧ c = '[' ∧ p.paired = false ∧ p.tag = .behind ∨
    m = .hollow ∧ c = '}' ∧ p.opened = true ∨ m = .doubled ∧ Text.isAsciiLetter c = true ∧ p.doubled = true := by
  have hletter : ∀ d ∈ ['$', '[', '}'], Text.isAsciiLetter d = false := by simp [Text.isAsciiLetter]
  unfold marks mark?
  split
  · next hc => simp [hc, hletter]
  · next hd =>
    split
    · next hc =>
      cases hp : p.paired <;> by_cases ht : p.tag = .behind <;> simp [hc, ht, hletter]
    · next hb =>
      split
      · next hc => cases hp : p.opened <;> simp [hc, hletter]
      · next hclose =>
        cases hl : Text.isAsciiLetter c <;> cases hp : p.doubled <;> simp [hd, hb, hclose]

@[simp] theorem indices_marks (p : Place) (c : Char) : indices (p.marks c) = [] := by
  refine List.filterMap_eq_nil_iff.2 fun m hm => ?_
  rcases mem_marks_iff.1 hm with ⟨rfl, -⟩ | ⟨rfl, -⟩ | ⟨rfl, -⟩ | ⟨rfl, -⟩ | ⟨rfl, -⟩ <;> rfl

@[simp] theorem indices_seen (p : Place) (s : Text) : indices (p.seen s) = [] := by
  induction s generalizing p with
  | nil => rfl
  | cons c s ih => rw [seen, indices_append, indices_marks, ih, List.nil_append]

theorem hollow_mem_marks_iff : .hollow ∈ p.marks c ↔ c = '}' ∧ p.opened = true := by simp [mem_marks_iff]

theorem doubled_mem_marks_iff : .doubled ∈ p.marks c ↔ Text.isAsciiLetter c = true ∧ p.doubled = true := by
  simp [mem_marks_iff]

theorem spacing_mem_marks_iff : .spacing ∈ p.marks c ↔ c = '[' ∧ p.paired = true := by simp [mem_marks_iff]

theorem option_mem_marks_iff : .option ∈ p.marks c ↔ c = '[' ∧ p.paired = false ∧ p.tag = .behind := by
  simp [mem_marks_iff]

theorem formula_not_mem_marks (p : Place) (c : Char) (n : Nat) (e : Bool) : .formula n e ∉ p.marks c := by
  simp [mem_marks_iff]

theorem pairwise_marks (p : Place) (c : Char) (R : Mark → Mark → Prop) : (p.marks c).Pairwise R := by
  unfold marks
  cases p.mark? c <;> simp

end Place

/-! ## Starting at another place -/

namespace Place

variable {p q : Place} {lists : Bool}

/-- Whether the next character is escaped at both places or at neither. -/
def Alike (p q : Place) : Prop := p.escaped = q.escaped

/-- Whether a reader at `p` keeps of his marks what one at `q` does, but for the options of lists; and those
only if lists are still to be laid out. -/
structure Below (lists : Bool) (p q : Place) : Prop where
  escaped : p.escaped = q.escaped
  paired : p.paired = q.paired
  tag : lists = true → p.tag = q.tag ∨ p.tag = .idle

/-- When no lists are left, the tags do not matter. -/
theorem Below.of_lists (h : p.Below lists q) : p.Below false q := ⟨h.escaped, h.paired, by simp⟩

theorem Below.refl (lists : Bool) (p : Place) : p.Below lists p := ⟨rfl, rfl, fun _ => .inl rfl⟩

theorem Alike.next (h : p.Alike q) (c : Char) : (p.next c).Alike (q.next c) := by
  rw [Alike, escaped_next, escaped_next, show p.escaped = q.escaped from h]

theorem Below.next (h : p.Below lists q) (c : Char) : (p.next c).Below lists (q.next c) where
  escaped := Alike.next h.escaped c
  paired := by rw [paired_next, paired_next, h.escaped]
  tag hlists := by
    rcases h.tag hlists with htag | htag
    · exact .inl (congrArg (Tag.next · c) htag)
    · rw [tag_next, tag_next, htag, Tag.next]
      split
      · exact .inl (by simp [Tag.next, *])
      · exact .inr rfl

/-- Whether the next character is escaped decides about a dollar alone. -/
theorem Alike.solid_marks (h : p.Alike q) (c : Char) : solid (p.marks c) = solid (q.marks c) := by
  by_cases hd : c = '$'
  · simp only [marks, mark?, hd, if_true, show p.escaped = q.escaped from h]
  · have hother : ∀ p : Place, solid (p.marks c) = [] := by
      refine fun p => List.filter_eq_nil_iff.2 fun m hm => ?_
      rcases mem_marks_iff.1 hm with ⟨-, hc⟩ | ⟨rfl, -⟩ | ⟨rfl, -⟩ | ⟨rfl, -⟩ | ⟨rfl, -⟩
      · exact absurd hc hd
      all_goals simp [Mark.isSolid]
    rw [hother, hother]

theorem Below.kept_marks (h : p.Below lists q) {c : Char} (ho : lists = true → .option ∉ q.marks c) :
    kept lists (p.marks c) = kept lists (q.marks c) := by
  by_cases hd : c = '$'
  · simp only [marks, mark?, hd, if_true, h.escaped]
  by_cases hb : c = '['
  · subst hb
    rw [option_mem_marks_iff] at ho
    cases hp : q.paired with
    | true => simp [marks, mark?, h.paired, hp]
    | false =>
      cases lists with
      | false => simp [marks, mark?, kept, h.paired, hp, apply_ite, Mark.isKept]
      | true =>
        have hq : q.tag ≠ .behind := fun hq => ho rfl ⟨rfl, hp, hq⟩
        have hp' : p.tag ≠ .behind := by
          rcases h.tag rfl with htag | htag
          · rwa [htag]
          · simp [htag]
        simp [marks, mark?, h.paired, hp, hq, hp']
  · have hother : ∀ p : Place, kept lists (p.marks c) = [] := by
      refine fun p => List.filter_eq_nil_iff.2 fun m hm => ?_
      rcases mem_marks_iff.1 hm with ⟨-, hc⟩ | ⟨-, hc, -⟩ | ⟨-, hc, -⟩ | ⟨rfl, -⟩ | ⟨rfl, -⟩
      · exact absurd hc hd
      · exact absurd hc hb
      · exact absurd hc hb
      all_goals simp [Mark.isKept]
    rw [hother, hother]

end Place

/-- What another place at the start leaves of the marks: `p` is the place of the new reader. -/
structure Retold (p q : Place) (ms' ms : List Mark) : Prop where
  indices : indices ms' = indices ms
  solid : p.Alike q → solid ms' = solid ms
  hollow : (p.opened = true → q.opened = true) → .hollow ∉ ms → .hollow ∉ ms'
  doubled : p.Below false q → (p.doubled = true → q.doubled = true) → .doubled ∉ ms → .doubled ∉ ms'
  kept : ∀ lists, p.Below lists q → (lists = true → .option ∉ ms) → kept lists ms' = kept lists ms

theorem Retold.cons {p q : Place} {ms' ms : List Mark} (c : Char) (h : Retold (p.next c) (q.next c) ms' ms) :
    Retold p q (p.marks c ++ ms') (q.marks c ++ ms) where
  indices := by rw [indices_append, indices_append, p.indices_marks, q.indices_marks, h.indices]
  solid hpq := by rw [solid_append, solid_append, hpq.solid_marks, h.solid (hpq.next c)]
  hollow hpq hms := by
    rw [List.mem_append, not_or, Place.hollow_mem_marks_iff] at hms ⊢
    exact ⟨fun hc => hms.1 ⟨hc.1, hpq hc.2⟩, h.hollow id hms.2⟩
  doubled hpq hd hms := by
    rw [List.mem_append, not_or, Place.doubled_mem_marks_iff] at hms ⊢
    refine ⟨fun hc => hms.1 ⟨hc.1, hd hc.2⟩, h.doubled (hpq.next c) ?_ hms.2⟩
    rw [Place.doubled_next, Place.doubled_next, hpq.escaped, hpq.paired]
    exact id
  kept lists hpq ho := by
    simp only [List.mem_append, not_or] at ho
    rw [kept_append, kept_append, hpq.kept_marks fun hl => (ho hl).1, h.kept lists (hpq.next c) fun hl => (ho hl).2]

/-- **A reader who starts at another place** gets through the text too. -/
theorem Reads.retell {q r : Place} {s : Text} {ms : List Mark} (h : Reads q s ms r) (p : Place) :
    ∃ ms' r', Reads p s ms' r' ∧ Retold p q ms' ms := by
  induction h generalizing p with
  | nil => exact ⟨[], p, .nil p, ⟨rfl, fun _ => rfl, fun _ h => h, fun _ _ h => h, fun _ _ _ => rfl⟩⟩
  | @char q r c s ms hopen hclose _ ih =>
    obtain ⟨ms', r', hr, hms⟩ := ih (p.next c)
    exact ⟨_, r', .char hopen hclose hr, hms.cons c⟩
  | @formula q r n s ms h _ =>
    refine ⟨_, r, .formula p n h, rfl, fun hpq => ?_, fun _ hms => ?_, fun _ _ hms => ?_, fun lists hpq _ => ?_⟩
    · rw [show p.escaped = q.escaped from hpq]
    · simpa using hms
    · simpa using hms
    · rw [hpq.escaped]

end Coursebook.Command
