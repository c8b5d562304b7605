/-
Documents written in any accepted notation. A document is prose and
formulas in turn, each formula in one of the spellings that
`canonicalize` knows. Its canonical text is split into exactly its pieces,
in order (`split_canonicalize_source`).

The rewriting and the splitting are two scanners. Each is taken apart on
its own: the rewriting turns the source of one piece into the raw text of
one segment, whatever follows (`Piece.Plain.canonicalize_append`), and raw
texts of plain segments are split into these segments
(`Segment.split_joinRaw`).
-/
import Coursebook.Math.Delimiter
import Coursebook.Proofs.Math.Environment
import Coursebook.Proofs.Segment.Split
import Coursebook.Proofs.Text.Trim

namespace Coursebook.Math

open Segment (IsBody FirstUnescaped ProseApart prose math)

/-! ## Spellings -/

/-- The accepted ways to write a formula. -/
inductive Spelling where
  | parens
  | dollar
  | brackets
  | dollars
  | equation (name : Text) (known : name ∈ displayNames)
  | rows (name inner : Text) (known : (name, inner) ∈ wrappedNames)
  | grid

/-- An environment with its body. -/
def environment (name b : Text) : Text := Environment.openTag name ++ b ++ Environment.closeTag name

/-- A formula with the body `b` as it is written. -/
def Spelling.source : Spelling → Text → Text
  | parens, b => ['\\', '('] ++ b ++ ['\\', ')']
  | dollar, b => ['$'] ++ b ++ ['$']
  | brackets, b => ['\\', '['] ++ b ++ ['\\', ']']
  | dollars, b => ['$', '$'] ++ b ++ ['$', '$']
  | equation name _, b => environment name b
  | rows name _ _, b => environment name b
  | grid, b => environment gridName b

/-- The segment that a formula with the body `b` becomes. -/
def Spelling.segment : Spelling → Text → Segment
  | parens, b => math .inline (Text.trim b)
  | dollar, b => math .inline (Text.trim b)
  | brackets, b => math .display (Text.trim b)
  | dollars, b => math .display b
  | equation _ _, b => math .display (Text.trim b)
  | rows _ inner _, b => math .display (environment inner (Text.trim b))
  | grid, b => math .display (environment arrayName (Text.trimEnd b))

/-- The marks of other spellings. -/
def marks : List Text :=
  [['\\', '('], ['\\', ')'], ['\\', '['], ['\\', ']'], ['\\', 'b', 'e', 'g', 'i', 'n'], ['\\', 'e', 'n', 'd']]

/-- A body that can be written in every spelling. -/
structure PlainBody (b : Text) : Prop where
  notBlank : Text.isBlankText b = false
  noDollar : '$' ∉ b
  noBlankLine : ¬['\n', '\n'] <:+: b
  noMark : ∀ m ∈ marks, ¬m <:+: b
  noEscape : (Text.trim b).getLast? ≠ some '\\'

instance (b : Text) : Decidable (PlainBody b) :=
  decidable_of_iff
    (Text.isBlankText b = false ∧ '$' ∉ b ∧ ¬Text.contains ['\n', '\n'] b ∧ (∀ m ∈ marks, ¬Text.contains m b) ∧
      (Text.trim b).getLast? ≠ some '\\') (by
    simp only [Text.contains_iff]
    exact ⟨fun ⟨h1, h2, h3, h4, h5⟩ => ⟨h1, h2, h3, h4, h5⟩, fun ⟨h1, h2, h3, h4, h5⟩ => ⟨h1, h2, h3, h4, h5⟩⟩)

namespace PlainBody

variable {b : Text}

theorem trim_ne_nil (h : PlainBody b) : Text.trim b ≠ [] := by simp [Text.trim_eq_nil_iff, h.notBlank]

theorem getLast?_trimEnd (h : PlainBody b) : (Text.trimEnd b).getLast? ≠ some '\\' := by
  rw [Text.getLast?_trimEnd h.notBlank]
  exact h.noEscape

theorem getLast? (h : PlainBody b) : b.getLast? ≠ some '\\' := by
  intro hl
  have := h.getLast?_trimEnd
  rw [Text.trimEnd_eq_self hl (by decide)] at this
  exact this hl

theorem noTags (h : PlainBody b) : Environment.NoTags b :=
  ⟨h.noMark _ (by simp [marks]), h.noMark _ (by simp [marks])⟩

theorem not_mem_trim (h : PlainBody b) : '$' ∉ Text.trim b := fun hm => h.noDollar ((Text.trim_infix b).subset hm)

theorem renameGrid_trimEnd (h : PlainBody b) : renameGrid (Text.trimEnd b) = Text.trimEnd b := by
  have key : ∀ m t, m ++ '{' :: t <:+: Text.trimEnd b → m <:+: b := fun m t hi =>
    (List.prefix_append m _).isInfix.trans (hi.trans (Text.trimEnd_isPrefix b).isInfix)
  have hopen : ¬Environment.openTag gridName <:+: Text.trimEnd b := fun hi =>
    h.noTags.noBegin (key _ _ (Environment.openTag_eq gridName ▸ hi))
  have hclose : ¬Environment.closeTag gridName <:+: Text.trimEnd b := fun hi =>
    h.noTags.noEnd (key _ _ (Environment.closeTag_eq gridName ▸ hi))
  rw [renameGrid, Text.replace_eq_self hopen, Text.replace_eq_self hclose]

theorem inlineSpan_eq (h : PlainBody b) (fallback : Text) :
    inlineSpan b fallback = (math .inline (Text.trim b)).raw := by
  have hb : inlineBody b = Text.trim b := if_neg h.noEscape
  rw [inlineSpan, hb]
  split
  · next he => exact absurd he h.trim_ne_nil
  · rfl

/-! ### Bodies of formulas -/

theorem isBody_inline (h : PlainBody b) : IsBody .inline b where
  left := by rintro rfl; exact h.trim_ne_nil rfl
  right := ⟨.of_not_mem h.getLast? h.noDollar, h.noBlankLine⟩

theorem isBody_display (h : PlainBody b) : IsBody .display b := FirstUnescaped.of_not_mem h.getLast? h.noDollar

theorem isBody_environment {name t : Text} (hn : '$' ∉ name) (ht : '$' ∉ t) :
    IsBody .display (environment name t) := by
  refine FirstUnescaped.of_not_mem ?_ ?_
  · simp [environment, Environment.closeTag]
  · simp [environment, Environment.openTag, Environment.closeTag, Environment.beginMark, Environment.endMark, hn, ht]

theorem isBody_trim (h : PlainBody b) : ∀ k, IsBody k (Text.trim b)
  | .inline => ⟨h.trim_ne_nil, .of_not_mem h.noEscape h.not_mem_trim,
      fun hi => h.noBlankLine (hi.trans (Text.trim_infix b))⟩
  | .display => FirstUnescaped.of_not_mem h.noEscape h.not_mem_trim

end PlainBody

/-! ## Names of environments -/

theorem not_mem_displayNames : ∀ name ∈ displayNames, '}' ∉ name := by decide

theorem environmentSpan?_equation {name : Text} (h : name ∈ displayNames) (b : Text) :
    environmentSpan? name b = some (displaySpan (Text.trim b)) := by
  rw [environmentSpan?, if_pos]
  exact List.any_eq_true.2 ⟨name, h, by simp⟩

theorem wrappedNames_spec : ∀ p ∈ wrappedNames,
    '}' ∉ p.1 ∧ '$' ∉ p.2 ∧ displayNames.any (· = p.1) = false ∧ wrappedNames.lookup p.1 = some p.2 := by decide

theorem environmentSpan?_rows {name inner : Text} (h : (name, inner) ∈ wrappedNames) (b : Text) :
    environmentSpan? name b = some (displaySpan (environment inner (Text.trim b))) := by
  obtain ⟨-, -, hany, hlookup⟩ := wrappedNames_spec _ h
  simp only [environmentSpan?, hany, hlookup]
  rfl

theorem environmentSpan?_grid {b : Text} (h : PlainBody b) :
    environmentSpan? gridName b = some (displaySpan (environment arrayName (Text.trimEnd b))) := by
  have hany : displayNames.any (· = gridName) = false := by decide
  have hlookup : wrappedNames.lookup gridName = none := by decide
  simp only [environmentSpan?, hany, hlookup, h.renameGrid_trimEnd]
  rfl

/-! ## Rewriting one piece -/

theorem formula?_environment {name b span : Text} (hn : '}' ∉ name) (hb : Environment.NoTagOf name b)
    (hs : environmentSpan? name b = some span) (r : Text) : formula? (environment name b ++ r) = some (span, r) := by
  have hread := Environment.read?_append hn hb r
  obtain ⟨z, hz⟩ : ∃ z, environment name b ++ r = '\\' :: 'b' :: z := ⟨_, rfl⟩
  rw [← environment, hz] at hread
  rw [hz, formula?]
  · simp only [hread, Option.bind_eq_bind, Option.bind_some, hs]
    rfl
  all_goals simp

theorem formula?_inline {s b r : Text} (h : Segment.mathSpan? ('$' :: s) = some (.inline, b, r)) :
    formula? ('$' :: s) = some (inlineSpan b (math .inline b).raw, r) := by
  rw [formula?, h]

theorem formula?_display {s b r : Text} (h : Segment.mathSpan? ('$' :: s) = some (.display, b, r)) :
    formula? ('$' :: s) = some (displaySpan b, r) := by
  rw [formula?, h]

theorem formula?_parens {b : Text} (h : FirstUnescaped ['\\', ')'] b) (r : Text) :
    formula? (Spelling.parens.source b ++ r) = some (inlineSpan b [], r) := by
  show (Segment.cutUnescaped? ['\\', ')'] (b ++ ['\\', ')'] ++ r)).map _ = _
  rw [h.cut (by simp) r]
  rfl

theorem formula?_brackets {b : Text} (h : FirstUnescaped ['\\', ']'] b) (r : Text) :
    formula? (Spelling.brackets.source b ++ r) = some (displaySpan (Text.trim b), r) := by
  show (Segment.cutUnescaped? ['\\', ']'] (b ++ ['\\', ']'] ++ r)).map _ = _
  rw [h.cut (by simp) r]
  rfl

/-- **Every spelling is read as its formula**, whatever follows it. -/
theorem formula?_source {b : Text} (hb : PlainBody b) (w : Spelling) (r : Text) :
    formula? (w.source b ++ r) = some ((w.segment b).raw, r) := by
  cases w with
  | parens =>
    have hclose : FirstUnescaped ['\\', ')'] b :=
      FirstUnescaped.of_not_infix hb.getLast? (by decide) (hb.noMark ['\\', ')'] (by decide))
    rw [formula?_parens hclose, hb.inlineSpan_eq]
    rfl
  | brackets =>
    have hclose : FirstUnescaped ['\\', ']'] b :=
      FirstUnescaped.of_not_infix hb.getLast? (by decide) (hb.noMark ['\\', ']'] (by decide))
    exact formula?_brackets hclose r
  | dollar =>
    have := formula?_inline (hb.isBody_inline.mathSpan? r)
    rw [hb.inlineSpan_eq] at this
    exact this
  | dollars =>
    exact formula?_display (hb.isBody_display.mathSpan? r)
  | equation name known =>
    exact formula?_environment (not_mem_displayNames name known) (hb.noTags.noTagOf name) (environmentSpan?_equation known b) r
  | rows name inner known =>
    exact formula?_environment (wrappedNames_spec _ known).1 (hb.noTags.noTagOf name) (environmentSpan?_rows known b) r
  | grid => exact formula?_environment (by decide) (hb.noTags.noTagOf gridName) (environmentSpan?_grid hb) r

theorem canonicalize_formula {s span r : Text} (hl : literalToken? s = none) (h : formula? s = some (span, r))
    (hr : r.length < s.length) : canonicalize s = span ++ canonicalize r := by
  cases s with
  | nil => simp at hr
  | cons c s =>
    rw [List.length_cons] at hr
    refine Text.replaceMatches_some ?_ (by omega)
    rw [hl]
    exact h

theorem canonicalize_copy {c : Char} (hd : c ≠ '$') (hb : c ≠ '\\') (s : Text) :
    canonicalize (c :: s) = c :: canonicalize s := by
  refine Text.replaceMatches_none ?_
  have hl : literalToken? (c :: s) = none := by
    unfold literalToken?
    split <;> simp_all
  have hf : formula? (c :: s) = none := by
    unfold formula?
    split <;> simp_all
  rw [hl]
  exact hf

theorem canonicalize_prose_append {t : Text} (hd : '$' ∉ t) (hb : '\\' ∉ t) (s : Text) :
    canonicalize (t ++ s) = t ++ canonicalize s := by
  induction t with
  | nil => rfl
  | cons c t ih =>
    simp only [List.mem_cons, not_or] at hd hb
    rw [List.cons_append, canonicalize_copy (Ne.symm hd.1) (Ne.symm hb.1), ih hd.2 hb.2]
    rfl

/-! ## Documents -/

/-- A piece of a document: prose, or a formula in one of the spellings. -/
inductive Piece where
  | prose (t : Text)
  | formula (w : Spelling) (b : Text)

namespace Piece

/-- The piece as it is written. -/
def source : Piece → Text
  | prose t => t
  | formula w b => w.source b

/-- The segment that the piece becomes. -/
def segment : Piece → Segment
  | prose t => .prose t
  | formula w b => w.segment b

/-- Prose without the characters that mark formulas, or a formula with a plain body. -/
def Plain : Piece → Prop
  | prose t => t ≠ [] ∧ '$' ∉ t ∧ '\\' ∉ t
  | formula _ b => PlainBody b

instance : DecidablePred Plain
  | prose t => inferInstanceAs (Decidable (t ≠ [] ∧ '$' ∉ t ∧ '\\' ∉ t))
  | formula _ b => inferInstanceAs (Decidable (PlainBody b))

theorem Plain.segment {p : Piece} (h : p.Plain) : p.segment.Plain := by
  cases p with
  | prose t => exact h
  | formula w b =>
    have hb : PlainBody b := h
    cases w with
    | parens | dollar => exact hb.isBody_trim .inline
    | brackets | equation => exact hb.isBody_trim .display
    | dollars => exact hb.isBody_display
    | rows name inner known => exact PlainBody.isBody_environment (wrappedNames_spec _ known).2.1 hb.not_mem_trim
    | grid =>
      exact PlainBody.isBody_environment (by decide) fun hm => hb.noDollar ((Text.trimEnd_isPrefix b).subset hm)

/-- **The source of a piece is rewritten to its segment**, whatever follows it. -/
theorem Plain.canonicalize_append {p : Piece} (h : p.Plain) (r : Text) :
    canonicalize (p.source ++ r) = p.segment.raw ++ canonicalize r := by
  cases p with
  | prose t => exact canonicalize_prose_append h.2.1 h.2.2 r
  | formula w b =>
    refine canonicalize_formula ?_ (formula?_source h w r) ?_
    · cases w <;> rfl
    · cases w <;> simp [source, Spelling.source, environment, Environment.openTag, Environment.beginMark] <;> omega

end Piece

/-- Plain pieces, and no two of them prose next to each other. -/
structure IsDocument (ps : List Piece) : Prop where
  plain : ∀ p ∈ ps, p.Plain
  apart : ProseApart (ps.map Piece.segment)

instance (ps : List Piece) : Decidable (IsDocument ps) :=
  decidable_of_iff ((∀ p ∈ ps, p.Plain) ∧ ProseApart (ps.map Piece.segment))
    ⟨fun ⟨h1, h2⟩ => ⟨h1, h2⟩, fun ⟨h1, h2⟩ => ⟨h1, h2⟩⟩

theorem canonicalize_source {ps : List Piece} (h : ∀ p ∈ ps, p.Plain) :
    canonicalize (ps.flatMap Piece.source) = Segment.joinRaw (ps.map Piece.segment) := by
  induction ps with
  | nil =>
    rw [List.flatMap_nil, canonicalize, Text.replaceMatches]
    rfl
  | cons p ps ih =>
    obtain ⟨hp, hps⟩ := List.forall_mem_cons.1 h
    rw [List.flatMap_cons, hp.canonicalize_append, ih hps]
    rfl

/-- **The canonical text of a document is split into exactly its pieces**, in order. -/
theorem split_canonicalize_source (ps : List Piece) (h : IsDocument ps) :
    Segment.split (canonicalize (ps.flatMap Piece.source)) = ps.map Piece.segment := by
  rw [canonicalize_source h.plain]
  refine Segment.split_joinRaw (fun g hg => ?_) h.apart
  obtain ⟨p, hp, rfl⟩ := List.mem_map.1 hg
  exact (h.plain p hp).segment

/-- A document whose formulas touch, in every spelling. -/
def touching : List Piece :=
  [.prose ['A', ' '], .formula .parens [' ', 'x', ' '], .formula .dollar ['y'], .formula .dollars ['z', ' '],
    .formula .brackets [' ', '\\', 'p', 'i'], .formula (.equation "equation*".toList (by decide)) ['\n', 'a', '\n'],
    .formula (.rows "align".toList "aligned".toList (by decide)) ['a', '\\', '\\', 'b'],
    .formula .grid ['{', 'c', '}', '1', '\n'], .prose ['.']]

theorem isDocument_touching : IsDocument touching := by decide

/-- The document above is split into its nine pieces. -/
theorem split_canonicalize_touching : IsDocument touching ∧
    Segment.split (canonicalize (touching.flatMap Piece.source)) = touching.map Piece.segment :=
  ⟨isDocument_touching, split_canonicalize_source touching isDocument_touching⟩

end Coursebook.Math
