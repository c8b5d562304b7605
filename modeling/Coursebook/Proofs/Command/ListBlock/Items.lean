/-
Where the body of a list is cut into items. A control word of TeX ends where
its letters do, so `\itemsep` is another word than `\item` and opens no item;
`itemPieces` cuts at the word `\item` alone. The layout cuts wherever these
characters stand (`render_eq_listing`), a longer word in two: what follows
them becomes an item of its own.

So the pieces at the word are those at its characters with some of them put
together (`itemPieces_eq_rejoin`), and a body with a longer word in it is
not laid out as its pieces at the word (`render_ne_listing`): the word is
still there in the layout that these ask for, or it stood in options, which
are dropped, and what was cut from them makes more lines.
-/
import Coursebook.Proofs.Command.ListBlock.Tree
import Coursebook.Proofs.Integrity.Damage

namespace Coursebook.Command.ListBlock

open Text (isBlankText)
open Corruption (startsWithLetter)

/-! ## The word -/

/-- What follows the word of an item at the head of a text. A letter behind it goes on with another word. -/
def afterItem? (s : Text) : Option Text := (Text.after? itemWord s).filter (!startsWithLetter ·)

/-- Cuts a text around the first word of an item. -/
def cutItem? : Text → Option (Text × Text)
  | [] => none
  | c :: s =>
    match afterItem? (c :: s) with
    | some r => some ([], r)
    | none => (cutItem? s).map fun (before, r) => (c :: before, r)

theorem afterItem?_eq_some {s r : Text} : afterItem? s = some r ↔ s = itemWord ++ r ∧ startsWithLetter r = false := by
  simp [afterItem?, Option.filter_eq_some_iff, Text.after?_eq_some]

theorem eq_of_cutItem? {s before r : Text} (h : cutItem? s = some (before, r)) : s = before ++ itemWord ++ r := by
  induction s generalizing before with
  | nil => simp [cutItem?] at h
  | cons c s ih =>
    rw [cutItem?] at h
    split at h
    · next r' hr =>
      obtain ⟨rfl, rfl⟩ := Prod.mk.inj (Option.some.inj h)
      exact (afterItem?_eq_some.1 hr).1
    · obtain ⟨⟨before, r'⟩, hcut, heq⟩ := Option.map_eq_some_iff.1 h
      obtain ⟨rfl, rfl⟩ := Prod.mk.inj heq
      rw [ih hcut]
      rfl

/-- The pieces of a body, cut at every word of an item. -/
def itemPieces (s : Text) : List Text :=
  match _h : cutItem? s with
  | none => [s]
  | some (before, r) => before :: itemPieces r
termination_by s.length
decreasing_by
  have : 0 < itemWord.length := by decide
  simp only [eq_of_cutItem? _h, List.length_append]
  omega

/-- Whether a longer control word stands in a text that starts as the word of an item does. -/
def HasLongerWord (s : Text) : Prop := ∃ a r, s = a ++ itemWord ++ r ∧ startsWithLetter r = true

/-! ## The layout of pieces -/

/-- The items of a list: the marker and the text of each entry that is not blank. -/
def items (kind : ListKind) (number : Nat) (entries : List Text) : List (Text × Text) :=
  ((entries.filter (!isBlankText ·)).zipIdx number).map fun e => (marker kind e.2, Text.trim e.1)

/-- The lines of items. -/
def itemLines (items : List (Text × Text)) : List Text := items.flatMap fun m => layoutItem m.1 (entryLines m.2)

/-- A list of which the body is cut into these pieces: the first one stands in front of the items, every other one
that is not blank is an item. -/
def listing (kind : ListKind) (pieces : List Text) : Text :=
  blankLine ++ layoutPreamble (pieces.headD []) ++ Text.join ['\n'] (itemLines (items kind 1 pieces.tail)) ++ blankLine

theorem layoutEntries_eq (kind : ListKind) (number : Nat) (entries : List Text) :
    layoutEntries kind number entries = itemLines (items kind number entries) := by
  induction entries generalizing number with
  | nil => rfl
  | cons entry entries ih =>
    rw [layoutEntries]
    by_cases hblank : isBlankText entry = true
    · rw [if_pos hblank, ih, items, items, List.filter_cons_of_neg (by simp [hblank])]
    · rw [if_neg hblank, ih, items, items, List.filter_cons_of_pos (by simp [hblank]), List.zipIdx_cons]
      rfl

/-- **A body is laid out as its pieces**, cut wherever the characters of the word stand. -/
theorem render_eq_listing (kind : ListKind) (body : Text) : render kind body = listing kind (Text.splitOn itemWord body) := by
  rw [render]
  simp only [layoutEntries_eq]
  cases Text.splitOn itemWord body with
  | nil => rfl
  | cons preamble entries => rfl

/-! ## Cutting at the word and cutting at its characters -/

theorem itemWord_ne_nil : itemWord ≠ [] := by decide

theorem cutItem?_cons {c : Char} {s : Text} (h : Text.after? itemWord (c :: s) = none) :
    cutItem? (c :: s) = (cutItem? s).map fun p => (c :: p.1, p.2) := by
  rw [cutItem?, afterItem?, h]
  rfl

theorem hasLongerWord_cons {c : Char} {s : Text} (h : Text.after? itemWord (c :: s) = none) :
    HasLongerWord (c :: s) ↔ HasLongerWord s := by
  constructor
  · rintro ⟨a, r, hs, hr⟩
    cases a with
    | nil => exact absurd ⟨r, hs.symm⟩ (Text.after?_eq_none_iff.1 h)
    | cons d a => exact ⟨a, r, (List.cons.inj hs).2, hr⟩
  · rintro ⟨a, r, rfl, hr⟩
    exact ⟨c :: a, r, rfl, hr⟩

/-- The letters of the word. -/
def itemLetters : Text := ['i', 't', 'e', 'm']

theorem itemWord_append (r : Text) : itemWord ++ r = '\\' :: (itemLetters ++ r) := rfl

theorem after?_letter {w : Text} (hw : w <:+ itemLetters) (hne : w ≠ []) (r : Text) : Text.after? itemWord (w ++ r) = none := by
  obtain ⟨c, w, rfl⟩ := List.exists_cons_of_ne_nil hne
  have hc : '\\' ≠ c := by
    rintro rfl
    exact absurd (hw.subset List.mem_cons_self) (by decide)
  rw [Text.after?_eq_none_iff]
  rintro ⟨t, ht⟩
  exact hc (List.cons.inj ht).1

/-- No word of an item starts in the letters of one. -/
theorem cutItem?_letters_append {w : Text} (hw : w <:+ itemLetters) (r : Text) :
    cutItem? (w ++ r) = (cutItem? r).map fun p => (w ++ p.1, p.2) := by
  induction w with
  | nil => simp
  | cons c w ih =>
    have hnone := after?_letter hw (List.cons_ne_nil c w) r
    rw [List.cons_append] at hnone ⊢
    rw [cutItem?_cons hnone, ih ((List.suffix_cons c w).trans hw), Option.map_map]
    rfl

theorem hasLongerWord_letters_append {w : Text} (hw : w <:+ itemLetters) (r : Text) :
    HasLongerWord (w ++ r) ↔ HasLongerWord r := by
  induction w with
  | nil => rfl
  | cons c w ih =>
    have hnone := after?_letter hw (List.cons_ne_nil c w) r
    rw [List.cons_append] at hnone ⊢
    rw [hasLongerWord_cons hnone, ih ((List.suffix_cons c w).trans hw)]

theorem afterItem?_itemWord_append (r : Text) :
    afterItem? (itemWord ++ r) = if startsWithLetter r then none else some r := by
  rw [afterItem?, Text.after?_append, Option.filter_some]
  cases startsWithLetter r <;> rfl

theorem cutItem?_itemWord_append (r : Text) :
    cutItem? (itemWord ++ r) =
      if startsWithLetter r then (cutItem? r).map fun p => (itemWord ++ p.1, p.2) else some ([], r) := by
  have hafter := afterItem?_itemWord_append r
  rw [itemWord_append] at hafter ⊢
  rw [cutItem?, hafter]
  by_cases hr : startsWithLetter r = true
  · rw [if_pos hr, if_pos hr, cutItem?_letters_append List.suffix_rfl, Option.map_map]
    rfl
  · rw [if_neg hr, if_neg hr]

theorem hasLongerWord_itemWord_append (r : Text) :
    HasLongerWord (itemWord ++ r) ↔ startsWithLetter r = true ∨ HasLongerWord r := by
  constructor
  · rintro ⟨a, r', hs, hr'⟩
    cases a with
    | nil => exact .inl (List.append_cancel_left hs ▸ hr')
    | cons d a =>
      have hletters : itemLetters ++ r = a ++ itemWord ++ r' := (List.cons.inj hs).2
      exact .inr ((hasLongerWord_letters_append List.suffix_rfl r).1 ⟨a, r', hletters, hr'⟩)
  · rintro (hr | ⟨a, r', rfl, hr'⟩)
    · exact ⟨[], r, rfl, hr⟩
    · exact ⟨itemWord ++ a, r', by simp, hr'⟩

/-- Where the characters of the word stand first, a letter behind them says whether they are a word of their own. -/
theorem of_cut? {s before r : Text} (h : Text.cut? itemWord s = some (before, r)) :
    cutItem? s = (if startsWithLetter r then (cutItem? r).map fun p => (before ++ itemWord ++ p.1, p.2)
      else some (before, r)) ∧ (HasLongerWord s ↔ startsWithLetter r = true ∨ HasLongerWord r) := by
  induction s generalizing before with
  | nil => simp [Text.cut?, itemWord_ne_nil] at h
  | cons c s ih =>
    rw [Text.cut?] at h
    split at h
    · next r' hafter =>
      obtain ⟨rfl, rfl⟩ := Prod.mk.inj (Option.some.inj h)
      rw [Text.after?_eq_some.1 hafter]
      exact ⟨cutItem?_itemWord_append r', hasLongerWord_itemWord_append r'⟩
    · next hnone =>
      obtain ⟨⟨before, r'⟩, hcut, heq⟩ := Option.map_eq_some_iff.1 h
      obtain ⟨rfl, rfl⟩ := Prod.mk.inj heq
      obtain ⟨hitem, hlonger⟩ := ih hcut
      refine ⟨?_, (hasLongerWord_cons hnone).trans hlonger⟩
      rw [cutItem?_cons hnone, hitem]
      by_cases hr : startsWithLetter r' = true
      · rw [if_pos hr, if_pos hr, Option.map_map]
        rfl
      · rw [if_neg hr, if_neg hr]
        rfl

theorem of_cut?_eq_none {s : Text} (h : Text.cut? itemWord s = none) : cutItem? s = none ∧ ¬HasLongerWord s := by
  have hno := Text.cut?_eq_none_iff.1 h
  constructor
  · cases hcut : cutItem? s with
    | none => rfl
    | some p => exact absurd ⟨p.1, p.2, (eq_of_cutItem? hcut).symm⟩ hno
  · rintro ⟨a, r, hs, -⟩
    exact hno ⟨a, r, hs.symm⟩

/-! ## The pieces -/

/-- Pieces of a body with those that go on with a letter put back behind the word that they were cut from. -/
def rejoin (first : Text) : List Text → List Text
  | [] => [first]
  | p :: rest => if startsWithLetter p then rejoin (first ++ itemWord ++ p) rest else first :: rejoin p rest

theorem rejoin_ne_nil (first : Text) (rest : List Text) : rejoin first rest ≠ [] := by
  induction rest generalizing first with
  | nil => exact List.cons_ne_nil _ _
  | cons p rest ih =>
    rw [rejoin]
    split
    · exact ih _
    · exact List.cons_ne_nil _ _

theorem rejoin_append (x first : Text) (rest : List Text) :
    rejoin (x ++ first) rest = (rejoin first rest).modifyHead (x ++ ·) := by
  induction rest generalizing first with
  | nil => rfl
  | cons p rest ih =>
    rw [rejoin, rejoin]
    split
    · rw [← ih]
      simp
    · rfl

theorem startsWithLetter_splitOn {s first : Text} {rest : List Text} (h : Text.splitOn itemWord s = first :: rest) :
    startsWithLetter first = startsWithLetter s := by
  rw [Text.eq_of_splitOn h]
  cases first with
  | cons c first => rfl
  | nil =>
    cases rest with
    | nil => rfl
    | cons p rest => rfl

theorem itemPieces_none {s : Text} (h : cutItem? s = none) : itemPieces s = [s] := by
  rw [itemPieces]
  split
  · rfl
  · next hcut => simp [h] at hcut

theorem itemPieces_some {s before r : Text} (h : cutItem? s = some (before, r)) : itemPieces s = before :: itemPieces r := by
  rw [itemPieces]
  split
  · next hcut => simp [h] at hcut
  · next hcut =>
    obtain ⟨rfl, rfl⟩ := Prod.mk.inj (Option.some.inj (hcut.symm.trans h))
    rfl

/-- In front of a text, what holds no word of an item is part of the first piece. -/
theorem itemPieces_append {x s : Text} (h : cutItem? (x ++ s) = (cutItem? s).map fun p => (x ++ p.1, p.2)) :
    itemPieces (x ++ s) = (itemPieces s).modifyHead (x ++ ·) := by
  cases hcut : cutItem? s with
  | none =>
    rw [hcut] at h
    rw [itemPieces_none h, itemPieces_none hcut]
    rfl
  | some p =>
    rw [hcut] at h
    rw [itemPieces_some h, itemPieces_some hcut]
    rfl

/-- **The pieces at the word** are those at its characters, put together where a letter follows, and a body has a
longer word if there are such. -/
theorem itemPieces_eq_rejoin {s first : Text} {rest : List Text} (h : Text.splitOn itemWord s = first :: rest) :
    itemPieces s = rejoin first rest ∧ (HasLongerWord s ↔ ∃ p ∈ rest, startsWithLetter p = true) := by
  fun_induction Text.splitOn itemWord s generalizing first rest with
  | case1 s hcut =>
    obtain ⟨rfl, rfl⟩ := List.cons.inj h
    obtain ⟨hitem, hno⟩ := of_cut?_eq_none hcut
    exact ⟨itemPieces_none hitem, by simp [hno]⟩
  | case2 s before r hcut hnil => exact absurd hnil itemWord_ne_nil
  | case3 s before r hcut _ ih =>
    obtain ⟨rfl, rfl⟩ := List.cons.inj h
    obtain ⟨p, rest, hsplit⟩ := List.exists_cons_of_ne_nil (Text.splitOn_ne_nil itemWord r)
    obtain ⟨hpieces, hrest⟩ := ih hsplit
    obtain ⟨hitem, hlonger⟩ := of_cut? hcut
    rw [← startsWithLetter_splitOn hsplit] at hitem hlonger
    have hexists : HasLongerWord s ↔ ∃ q ∈ p :: rest, startsWithLetter q = true := by
      rw [hlonger, hrest]
      simp only [List.mem_cons, exists_eq_or_imp]
    rw [hsplit]
    refine ⟨?_, hexists⟩
    rw [rejoin]
    by_cases hp : startsWithLetter p = true
    · rw [if_pos hp] at hitem ⊢
      have hs := Text.eq_of_cut? hcut
      subst hs
      rw [itemPieces_append hitem, rejoin_append, hpieces]
    · rw [if_neg hp] at hitem ⊢
      rw [itemPieces_some hitem, hpieces]

theorem rejoin_eq_self {first : Text} {rest : List Text} (h : ∀ p ∈ rest, startsWithLetter p = false) :
    rejoin first rest = first :: rest := by
  induction rest generalizing first with
  | nil => rfl
  | cons p rest ih =>
    obtain ⟨hp, hrest⟩ := List.forall_mem_cons.1 h
    rw [rejoin, if_neg (by simp [hp]), ih hrest]

/-- What is put together holds the characters of the word. If no entry does, only the first piece can be put together,
from those in front of the entries. -/
theorem rejoin_cases {first p : Text} {rest entries : List Text} (h : rejoin first rest = p :: entries) :
    (∃ e ∈ entries, itemWord <:+: e) ∨
      ∃ cuts, rest = cuts ++ entries ∧ p = first ++ cuts.flatMap (itemWord ++ ·) ∧
        (∀ q ∈ cuts, startsWithLetter q = true) ∧ ∀ q ∈ entries, startsWithLetter q = false := by
  induction rest generalizing first p entries with
  | nil =>
    obtain ⟨rfl, rfl⟩ := List.cons.inj h
    exact .inr ⟨[], rfl, by simp, by simp, by simp⟩
  | cons q rest ih =>
    rw [rejoin] at h
    by_cases hq : startsWithLetter q = true
    · rw [if_pos hq] at h
      rcases ih h with hword | ⟨cuts, rfl, rfl, hcuts, hentries⟩
      · exact .inl hword
      · exact .inr ⟨q :: cuts, rfl, by simp, List.forall_mem_cons.2 ⟨hq, hcuts⟩, hentries⟩
    · rw [if_neg hq] at h
      obtain ⟨rfl, rfl⟩ := List.cons.inj h
      obtain ⟨p', entries, h'⟩ := List.exists_cons_of_ne_nil (rejoin_ne_nil q rest)
      rw [h']
      rcases ih h' with ⟨e, he, hword⟩ | ⟨cuts, rfl, rfl, hcuts, hentries⟩
      · exact .inl ⟨e, List.mem_cons_of_mem _ he, hword⟩
      · cases cuts with
        | nil =>
          refine .inr ⟨[], by simp, by simp, by simp, List.forall_mem_cons.2 ⟨?_, hentries⟩⟩
          simpa using hq
        | cons r cuts =>
          refine .inl ⟨_, List.mem_cons_self, ?_⟩
          rw [List.flatMap_cons, List.append_assoc]
          exact ⟨q, r ++ cuts.flatMap (itemWord ++ ·), by simp⟩

/-! ## The word in a layout -/

theorem itemWord_not_blank : ∀ c ∈ itemWord, Text.isBlank c = false := by
  have hall : itemWord.all (!Text.isBlank ·) = true := by decide
  exact fun c hc => by simpa using List.all_eq_true.1 hall c hc

theorem infix_entryLines (entry : Text) : (∃ l ∈ entryLines entry, itemWord <:+: l) ↔ itemWord <:+: entry := by
  have htrim := Text.infix_trimEnd itemWord_ne_nil itemWord_not_blank
  have hjoin := Text.infix_join itemWord_ne_nil (by decide : '\n' ∉ itemWord) (Text.splitOn ['\n'] entry)
  rw [Text.join_splitOn] at hjoin
  rw [hjoin]
  constructor
  · rintro ⟨l, hl, hword⟩
    obtain ⟨l, hmem, rfl⟩ := List.mem_map.1 (List.mem_filter.1 hl).1
    exact ⟨l, hmem, (htrim l).1 hword⟩
  · rintro ⟨l, hmem, hword⟩
    have hword := (htrim l).2 hword
    refine ⟨Text.trimEnd l, List.mem_filter.2 ⟨List.mem_map_of_mem hmem, ?_⟩, hword⟩
    rw [decide_eq_true_eq]
    intro hnil
    rw [hnil, List.infix_nil] at hword
    exact itemWord_ne_nil hword

theorem infix_layoutItem (kind : ListKind) (n : Nat) (lines : List Text) :
    (∃ l ∈ layoutItem (marker kind n) lines, itemWord <:+: l) ↔ ∃ l ∈ lines, itemWord <:+: l := by
  cases lines with
  | nil => rfl
  | cons first rest =>
    have hmarker : ¬itemWord <:+: marker kind n := fun h =>
      backslash_not_mem_marker kind n (List.mem_append_left _ (h.subset List.mem_cons_self))
    have hfirst : itemWord <:+: marker kind n ++ ' ' :: Text.trimStart first ↔ itemWord <:+: first := by
      rw [Text.infix_append_cons (by decide), Text.infix_trimStart itemWord_ne_nil itemWord_not_blank]
      exact or_iff_right hmarker
    have hrest : ∀ m l, itemWord <:+: List.replicate m ' ' ++ l ↔ itemWord <:+: l := fun m l =>
      Text.infix_blank_append itemWord_ne_nil itemWord_not_blank (by simp [isBlankText, Text.isBlank]) l
    simp only [layoutItem, List.mem_cons, exists_eq_or_imp, hfirst, List.mem_map, exists_exists_and_eq_and, hrest]

theorem infix_layoutEntries (kind : ListKind) (n : Nat) (entries : List Text) :
    (∃ l ∈ layoutEntries kind n entries, itemWord <:+: l) ↔ ∃ e ∈ entries, itemWord <:+: e := by
  induction entries generalizing n with
  | nil => rfl
  | cons entry entries ih =>
    rw [layoutEntries]
    simp only [List.mem_cons, exists_eq_or_imp]
    by_cases hblank : isBlankText entry = true
    · rw [if_pos hblank, ih]
      exact (or_iff_right (Text.not_infix_blank itemWord_ne_nil itemWord_not_blank hblank)).symm
    · have hitem : (∃ l ∈ layoutItem (marker kind n) (entryLines (Text.trim entry)), itemWord <:+: l) ↔
          itemWord <:+: entry := by
        rw [infix_layoutItem, infix_entryLines, Text.infix_trim itemWord_ne_nil itemWord_not_blank]
      rw [if_neg hblank, ← hitem, ← ih (n + 1)]
      simp only [List.mem_append, or_and_right, exists_or]

theorem layoutPreamble_options {p u : Text} (h : Text.trim p = '[' :: u) : layoutPreamble p = [] := by
  rw [layoutPreamble]
  simp [h]

/-- A preamble with the word in it is options, or stands in front of the items. -/
theorem layoutPreamble_cases {p : Text} (h : itemWord <:+: p) :
    (∃ u, Text.trim p = '[' :: u) ∨ itemWord <:+: layoutPreamble p := by
  rw [← Text.infix_trim itemWord_ne_nil itemWord_not_blank] at h
  rw [layoutPreamble]
  split
  · next hp =>
    rw [hp, List.infix_nil] at h
    exact absurd h itemWord_ne_nil
  · next u hp => exact .inl ⟨u, hp⟩
  · exact .inr (h.trans (List.prefix_append _ _).isInfix)

theorem infix_layoutPreamble {p : Text} (h : itemWord <:+: layoutPreamble p) : itemWord <:+: p := by
  rw [layoutPreamble] at h
  split at h
  · exact absurd (List.infix_nil.1 h) itemWord_ne_nil
  · exact absurd (List.infix_nil.1 h) itemWord_ne_nil
  · rwa [Text.infix_append_blank itemWord_ne_nil itemWord_not_blank (by decide),
      Text.infix_trim itemWord_ne_nil itemWord_not_blank] at h

theorem infix_layoutPreamble_append (p s : Text) :
    itemWord <:+: layoutPreamble p ++ s ↔ itemWord <:+: layoutPreamble p ∨ itemWord <:+: s := by
  have hblank : isBlankText blankLine = true := by decide
  rw [layoutPreamble]
  split
  · simp [itemWord_ne_nil]
  · simp [itemWord_ne_nil]
  · have hline : (Text.trim p ++ blankLine) ++ s = Text.trim p ++ '\n' :: (['\n'] ++ s) := by simp [blankLine]
    rw [hline, Text.infix_append_cons (by decide), Text.infix_blank_append itemWord_ne_nil itemWord_not_blank (by decide),
      Text.infix_append_blank itemWord_ne_nil itemWord_not_blank hblank]

/-- **What the layout of pieces holds of the word**: that of the preamble, if it is no options, and that of the
entries. -/
theorem infix_listing (kind : ListKind) (p : Text) (entries : List Text) :
    itemWord <:+: listing kind (p :: entries) ↔ itemWord <:+: layoutPreamble p ∨ ∃ e ∈ entries, itemWord <:+: e := by
  have hblank : isBlankText blankLine = true := by decide
  rw [listing, Text.infix_append_blank itemWord_ne_nil itemWord_not_blank hblank, List.append_assoc,
    Text.infix_blank_append itemWord_ne_nil itemWord_not_blank hblank, List.headD_cons, infix_layoutPreamble_append,
    Text.infix_join itemWord_ne_nil (by decide), List.tail_cons, ← layoutEntries_eq, infix_layoutEntries]

/-! ## The lines of a layout -/

theorem length_layoutItem (marker : Text) (lines : List Text) : (layoutItem marker lines).length = lines.length := by
  cases lines with
  | nil => rfl
  | cons first rest => simp [layoutItem]

/-- The number of lines does not hang on the number of the first item. -/
theorem length_layoutEntries (kind : ListKind) (n m : Nat) (entries : List Text) :
    (layoutEntries kind n entries).length = (layoutEntries kind m entries).length := by
  induction entries generalizing n m with
  | nil => rfl
  | cons entry entries ih =>
    rw [layoutEntries, layoutEntries]
    split
    · exact ih n m
    · rw [List.length_append, List.length_append, length_layoutItem, length_layoutItem, ih (n + 1) (m + 1)]

theorem length_layoutEntries_append (kind : ListKind) (n m : Nat) (entries more : List Text) :
    (layoutEntries kind n (entries ++ more)).length =
      (layoutEntries kind n entries).length + (layoutEntries kind m more).length := by
  induction entries generalizing n with
  | nil => rw [List.nil_append, layoutEntries, List.length_nil, Nat.zero_add, length_layoutEntries kind n m]
  | cons entry entries ih =>
    rw [List.cons_append, layoutEntries, layoutEntries]
    split
    · exact ih n
    · rw [List.length_append, List.length_append, ih (n + 1), Nat.add_assoc]

/-- An entry that is not blank has a line. -/
theorem layoutEntries_length_pos (kind : ListKind) (n : Nat) {entry : Text} (h : isBlankText entry = false)
    (entries : List Text) : 0 < (layoutEntries kind n (entry :: entries)).length := by
  obtain ⟨first, rest, hlines, -⟩ := respaces_entryLines entry rfl (by simp [Text.trim_eq_nil_iff, h]) 0
  rw [layoutEntries, if_neg (by simp [h]), hlines, List.length_append, length_layoutItem, List.length_cons]
  omega

theorem newline_not_mem_entryLines (entry : Text) : ∀ l ∈ entryLines entry, '\n' ∉ l := by
  intro l hl hmem
  obtain ⟨l, hpiece, rfl⟩ := List.mem_map.1 (List.mem_filter.1 hl).1
  obtain ⟨a, b, he⟩ := List.append_of_mem ((Text.trimEnd_isPrefix l).subset hmem)
  exact Text.not_infix_of_mem_splitOn (List.cons_ne_nil _ _) l hpiece ⟨a, b, by rw [he]; simp⟩

theorem line_of_mem_layoutItem {kind : ListKind} {n : Nat} {lines : List Text} (h : ∀ l ∈ lines, '\n' ∉ l) :
    ∀ l ∈ layoutItem (marker kind n) lines, l ≠ [] ∧ '\n' ∉ l := by
  cases lines with
  | nil => simp [layoutItem]
  | cons first rest =>
    obtain ⟨hfirst, hrest⟩ := List.forall_mem_cons.1 h
    intro l hl
    rcases List.mem_cons.1 hl with rfl | hl
    · have hstart : '\n' ∉ Text.trimStart first := fun hm => hfirst ((Text.trimStart_suffix first).subset hm)
      exact ⟨by simp, by simp [newline_not_mem_marker, hstart]⟩
    · obtain ⟨l, hmem, rfl⟩ := List.mem_map.1 hl
      exact ⟨by simp, by simp [hrest l hmem]⟩

theorem line_of_mem_layoutEntries (kind : ListKind) (n : Nat) (entries : List Text) :
    ∀ l ∈ layoutEntries kind n entries, l ≠ [] ∧ '\n' ∉ l := by
  induction entries generalizing n with
  | nil => simp [layoutEntries]
  | cons entry entries ih =>
    rw [layoutEntries]
    split
    · exact ih n
    · rw [List.forall_mem_append]
      exact ⟨line_of_mem_layoutItem (newline_not_mem_entryLines _), ih (n + 1)⟩

/-- Lines that are not empty are read back. -/
theorem lines_of_join {ls : List Text} (h : ∀ l ∈ ls, l ≠ [] ∧ '\n' ∉ l) :
    (Text.splitOn ['\n'] (Text.join ['\n'] ls)).filter (· ≠ []) = ls := by
  by_cases hls : ls = []
  · rw [hls, Text.join, Text.splitOn_of_not_mem List.not_mem_nil]
    rfl
  · rw [Text.splitOn_join hls fun l hl => (h l hl).2, List.filter_eq_self]
    intro l hl
    exact decide_eq_true (h l hl).1

/-! ## Longer words -/

/-- Without options in front, a layout is that of its lines. -/
theorem layoutEntries_eq_of_listing {kind : ListKind} {p p' : Text} {entries entries' : List Text}
    (hp : layoutPreamble p = []) (hp' : layoutPreamble p' = [])
    (h : listing kind (p :: entries) = listing kind (p' :: entries')) :
    layoutEntries kind 1 entries = layoutEntries kind 1 entries' := by
  rw [listing, listing, List.headD_cons, List.headD_cons, hp, hp', List.tail_cons, List.tail_cons, ← layoutEntries_eq,
    ← layoutEntries_eq] at h
  have hjoin := List.append_cancel_left (List.append_cancel_right h)
  rw [← lines_of_join (line_of_mem_layoutEntries kind 1 entries), hjoin,
    lines_of_join (line_of_mem_layoutEntries kind 1 entries')]

theorem isBlankText_of_letter {q : Text} (hq : startsWithLetter q = true) : isBlankText q = false := by
  cases q with
  | nil => exact Bool.noConfusion hq
  | cons c q => exact Text.isBlankText_cons (Text.isBlank_of_alphanumeric (Text.isAsciiAlphanumeric_of_letter hq)) q

/-- Options start in front of the word that stands in them. -/
theorem options_of_append {first x u : Text} (h : Text.trim (first ++ (itemWord ++ x)) = '[' :: u) :
    ∃ u', Text.trim first = '[' :: u' := by
  have hhead := Text.head?_trim (first ++ (itemWord ++ x))
  rw [h, List.head?_cons] at hhead
  by_cases hblank : isBlankText first = true
  · rw [Text.trimStart, List.dropWhile_append_of_pos (List.all_eq_true.1 hblank), itemWord_append,
      List.dropWhile_cons_of_neg (by decide)] at hhead
    exact absurd (Option.some.inj hhead) (by decide)
  · rw [Bool.not_eq_true] at hblank
    have hne : Text.trimStart first ≠ [] := by
      intro hnil
      rw [← Text.isBlankText_trimStart, hnil] at hblank
      exact Bool.noConfusion hblank
    obtain ⟨c, t, hstart⟩ := List.exists_cons_of_ne_nil hne
    have hfirst := Text.head?_trim first
    rw [Text.trimStart_append hblank, hstart] at hhead
    rw [hstart, List.head?_cons, ← Option.some.inj hhead] at hfirst
    exact List.head?_eq_some_iff.1 hfirst

/-- Pieces that are cut out of options are items of their own, so the layout has more lines. -/
theorem listing_cuts_ne {kind : ListKind} {first u : Text} {cuts entries : List Text} (hne : cuts ≠ [])
    (hcuts : ∀ q ∈ cuts, startsWithLetter q = true) (hp : Text.trim (first ++ cuts.flatMap (itemWord ++ ·)) = '[' :: u) :
    listing kind (first :: (cuts ++ entries)) ≠ listing kind ((first ++ cuts.flatMap (itemWord ++ ·)) :: entries) := by
  obtain ⟨q, cuts, rfl⟩ := List.exists_cons_of_ne_nil hne
  intro h
  have hoptions := layoutPreamble_options hp
  rw [List.flatMap_cons, List.append_assoc] at hp
  obtain ⟨u', hfirst⟩ := options_of_append hp
  have hlines := layoutEntries_eq_of_listing (layoutPreamble_options hfirst) hoptions h
  have hmore := length_layoutEntries_append kind 1 1 (q :: cuts) entries
  have hpos := layoutEntries_length_pos kind 1 (isBlankText_of_letter (hcuts q List.mem_cons_self)) cuts
  rw [hlines] at hmore
  omega

theorem render_ne_listing (kind : ListKind) {body : Text} (h : HasLongerWord body) :
    render kind body ≠ listing kind (itemPieces body) := by
  obtain ⟨first, rest, hsplit⟩ := List.exists_cons_of_ne_nil (Text.splitOn_ne_nil itemWord body)
  obtain ⟨hpieces, hlonger⟩ := itemPieces_eq_rejoin hsplit
  obtain ⟨p, entries, hrejoin⟩ := List.exists_cons_of_ne_nil (rejoin_ne_nil first rest)
  have hnot : ¬itemWord <:+: render kind body := by
    have hno := Text.not_infix_of_mem_splitOn (s := body) itemWord_ne_nil
    rw [hsplit, List.forall_mem_cons] at hno
    rw [render_eq_listing, hsplit, infix_listing]
    rintro (hpreamble | ⟨e, he, hword⟩)
    · exact hno.1 (infix_layoutPreamble hpreamble)
    · exact hno.2 e he hword
  rw [hpieces, hrejoin]
  intro heq
  rcases rejoin_cases hrejoin with hword | ⟨cuts, rfl, rfl, hcuts, hentries⟩
  · rw [heq, infix_listing] at hnot
    exact hnot (.inr hword)
  · have hne : cuts ≠ [] := by
      rintro rfl
      obtain ⟨q, hq, hletter⟩ := hlonger.1 h
      rw [List.nil_append] at hq
      rw [hentries q hq] at hletter
      exact Bool.noConfusion hletter
    have hword : itemWord <:+: first ++ cuts.flatMap (itemWord ++ ·) := by
      obtain ⟨q, cuts, rfl⟩ := List.exists_cons_of_ne_nil hne
      rw [List.flatMap_cons, List.append_assoc]
      exact ⟨first, q ++ cuts.flatMap (itemWord ++ ·), by simp⟩
    rcases layoutPreamble_cases hword with ⟨u, hu⟩ | hpreamble
    · rw [render_eq_listing, hsplit] at heq
      exact listing_cuts_ne hne hcuts hu heq
    · rw [heq, infix_listing] at hnot
      exact hnot (.inl hpreamble)

/-- **Where a body is cut.** It is laid out as the pieces between the characters of the word, and these are the pieces
between the words exactly if no longer word stands in the body. -/
theorem render_eq_listing_iff (kind : ListKind) (body : Text) :
    render kind body = listing kind (Text.splitOn itemWord body) ∧
      (render kind body = listing kind (itemPieces body) ↔ ¬HasLongerWord body) := by
  refine ⟨render_eq_listing kind body, fun h hlonger => render_ne_listing kind hlonger h, fun h => ?_⟩
  obtain ⟨first, rest, hsplit⟩ := List.exists_cons_of_ne_nil (Text.splitOn_ne_nil itemWord body)
  obtain ⟨hpieces, hlonger⟩ := itemPieces_eq_rejoin hsplit
  have hno : ∀ p ∈ rest, startsWithLetter p = false := by
    intro p hp
    rw [← Bool.not_eq_true]
    exact fun hletter => h (hlonger.2 ⟨p, hp, hletter⟩)
  rw [render_eq_listing, hpieces, rejoin_eq_self hno, hsplit]

end Coursebook.Command.ListBlock
