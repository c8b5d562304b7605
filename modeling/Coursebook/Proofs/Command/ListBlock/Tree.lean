/-
Nested lists. A tree of lists is written with an environment for each list,
an inner one behind the text of the item that it belongs to. Its layout is
read off the tree: a list's items with their markers, and what belongs to an
item behind its marker, the further lines indented to it.

`renderAll_source` says that laying the source out gives this layout. The
rounds know no trees: they take the last opening tag of a flat text, so the
lists of the last item are laid out first, and the lines of an inner list are
plain lines for the list around it. A round is the same whatever stands in
front of the tag, and whatever stands behind it if nothing opens there
(`ListTree.rounds`).
-/
import Coursebook.Proofs.Command.ListBlock.Rounds

namespace Coursebook.Command.ListBlock

open Environment (openTag closeTag)

/-! ## Trees of lists -/

/-- The text of an item: it stands on one line, holds no command, and has no white space around it. -/
structure ItemText where
  text : Text
  oneLine : '\n' ∉ text
  noCommand : '\\' ∉ text
  trimmed : Text.trim text = text

mutual

/-- A list. -/
inductive ListTree where
  | list (kind : ListKind) (items : ItemTrees)

/-- The items of a list, one at least. -/
inductive ItemTrees where
  | last (item : ItemTree)
  | cons (item : ItemTree) (rest : ItemTrees)

/-- An item: a text alone, or a list behind a text that may be empty. -/
inductive ItemTree where
  | line (text : ItemText) (ne_nil : text.text ≠ [])
  | nested (text : ItemText) (below : ListTree)

end

mutual

/-- A list as it is written. -/
def ListTree.source : ListTree → Text
  | .list kind items => openTag (environmentName kind) ++ (items.source ++ closeTag (environmentName kind))

def ItemTrees.source : ItemTrees → Text
  | .last item => item.source
  | .cons item rest => item.source ++ rest.source

def ItemTree.source : ItemTree → Text
  | .line text _ => itemWord ++ ' ' :: text.text
  | .nested text below => itemWord ++ ' ' :: (text.text ++ below.source)

end

/-- Lines behind a marker: the first one behind a space, the others indented as far. -/
def hang (marker : Text) : List Text → List Text
  | [] => []
  | first :: rest => (marker ++ ' ' :: first) :: rest.map (List.replicate (marker.length + 1) ' ' ++ ·)

mutual

/-- The lines of a list. -/
def ListTree.layout : ListTree → List Text
  | .list kind items => items.layout kind 1

/-- The lines of items numbered from `n` on. -/
def ItemTrees.layout (kind : ListKind) (n : Nat) : ItemTrees → List Text
  | .last item => item.layout (marker kind n)
  | .cons item rest => item.layout (marker kind n) ++ rest.layout kind (n + 1)

def ItemTree.layout (marker : Text) : ItemTree → List Text
  | .line text _ => hang marker [text.text]
  | .nested text below => hang marker (if text.text = [] then below.layout else text.text :: below.layout)

end

/-- Lines as a block of their own. -/
def block (lines : List Text) : Text := blankLine ++ (Text.join ['\n'] lines ++ blankLine)

/-! ## Lines -/

/-- A line of a layout: it holds no line ending and no command, and does not end in white space. -/
structure IsLine (l : Text) : Prop where
  ne_nil : l ≠ []
  oneLine : '\n' ∉ l
  noCommand : '\\' ∉ l
  last : ∀ c ∈ l.getLast?, Text.isBlank c = false

/-- Lines of a layout, of which the first does not start with white space. -/
structure IsLayout (lines : List Text) : Prop where
  ne_nil : lines ≠ []
  line : ∀ l ∈ lines, IsLine l
  first : ∀ l ∈ lines.head?, ∀ c ∈ l.head?, Text.isBlank c = false

theorem IsLine.trimEnd {l : Text} (h : IsLine l) : Text.trimEnd l = l := by
  obtain ⟨c, hc⟩ : ∃ c, l.getLast? = some c := ⟨_, List.getLast?_eq_some_getLast h.ne_nil⟩
  exact Text.trimEnd_eq_self hc (h.last c hc)

/-- A line behind other text that holds no line ending and no command. -/
theorem IsLine.append_left {l : Text} (h : IsLine l) {w : Text} (hline : '\n' ∉ w) (hcommand : '\\' ∉ w) :
    IsLine (w ++ l) where
  ne_nil := by simp [h.ne_nil]
  oneLine := by simp [hline, h.oneLine]
  noCommand := by simp [hcommand, h.noCommand]
  last := by
    obtain ⟨c, hc⟩ : ∃ c, l.getLast? = some c := ⟨_, List.getLast?_eq_some_getLast h.ne_nil⟩
    simpa [List.getLast?_append, hc] using h.last c hc

namespace ItemText

theorem head?_isBlank (t : ItemText) : ∀ c ∈ t.text.head?, Text.isBlank c = false := by
  rw [← t.trimmed]
  exact Text.isBlank_of_head?_trim

theorem getLast?_isBlank (t : ItemText) : ∀ c ∈ t.text.getLast?, Text.isBlank c = false := by
  rw [← t.trimmed]
  exact fun c hc => Text.isBlank_of_getLast?_trimEnd hc

theorem isLine (t : ItemText) (h : t.text ≠ []) : IsLine t.text := ⟨h, t.oneLine, t.noCommand, t.getLast?_isBlank⟩

end ItemText

theorem newline_not_mem_marker (kind : ListKind) (n : Nat) : '\n' ∉ marker kind n := by
  cases kind with
  | unordered => simp [marker]
  | ordered =>
    intro h
    rcases List.mem_append.1 h with h | h
    · exact absurd (Text.isAsciiDigit_of_mem_ofNat h) (by decide)
    · simp at h

/-- A marker does not start with white space. -/
theorem exists_marker_eq_cons (kind : ListKind) (n : Nat) : ∃ c w, marker kind n = c :: w ∧ Text.isBlank c = false := by
  cases kind with
  | unordered => exact ⟨'-', [], rfl, by decide⟩
  | ordered =>
    obtain ⟨c, w, hw⟩ := List.exists_cons_of_ne_nil (Text.ofNat_ne_nil n)
    refine ⟨c, w ++ ['.'], by simp [marker, hw], ?_⟩
    have hdigit : Text.isAsciiDigit c = true := Text.isAsciiDigit_of_mem_ofNat (hw ▸ List.mem_cons_self)
    exact Text.isBlank_of_alphanumeric (by simp [Text.isAsciiAlphanumeric, hdigit])

/-- What hangs behind a marker is a layout again. -/
theorem IsLayout.hang {lines : List Text} (h : IsLayout lines) (kind : ListKind) (n : Nat) :
    IsLayout (hang (marker kind n) lines) := by
  obtain ⟨first, rest, rfl⟩ := List.exists_cons_of_ne_nil h.ne_nil
  obtain ⟨hfirst, hrest⟩ := List.forall_mem_cons.1 h.line
  have hmarker : '\\' ∉ marker kind n ++ [' '] := backslash_not_mem_marker kind n
  refine ⟨by simp [ListBlock.hang], ?_, ?_⟩
  · rw [ListBlock.hang, List.forall_mem_cons]
    constructor
    · have := hfirst.append_left (w := marker kind n ++ [' ']) (by simp [newline_not_mem_marker]) hmarker
      simpa using this
    · intro l hl
      obtain ⟨l', hl', rfl⟩ := List.mem_map.1 hl
      exact (hrest l' hl').append_left (by simp) (by simp)
  · obtain ⟨c, w, hw, hc⟩ := exists_marker_eq_cons kind n
    simp [ListBlock.hang, hw, hc]

theorem IsLayout.append {ls ls' : List Text} (h : IsLayout ls) (h' : IsLayout ls') : IsLayout (ls ++ ls') where
  ne_nil := by simp [h.ne_nil]
  line l hl := (List.mem_append.1 hl).elim (h.line l) (h'.line l)
  first := by
    obtain ⟨first, rest, rfl⟩ := List.exists_cons_of_ne_nil h.ne_nil
    exact h.first

/-- A text in front of lines. -/
theorem ItemText.isLayout_cons (t : ItemText) (ht : t.text ≠ []) {lines : List Text} (h : ∀ l ∈ lines, IsLine l) :
    IsLayout (t.text :: lines) where
  ne_nil := List.cons_ne_nil t.text lines
  line := List.forall_mem_cons.2 ⟨t.isLine ht, h⟩
  first := by simpa using t.head?_isBlank

theorem ItemText.isLayout_singleton (t : ItemText) (ht : t.text ≠ []) : IsLayout [t.text] :=
  t.isLayout_cons ht (by simp)

/-- A text in front of a layout, if there is any. -/
theorem ItemText.isLayout (t : ItemText) {lines : List Text} (h : IsLayout lines) :
    IsLayout (if t.text = [] then lines else t.text :: lines) := by
  split
  · exact h
  · next ht => exact t.isLayout_cons ht h.line

mutual

theorem ListTree.isLayout : ∀ t : ListTree, IsLayout t.layout
  | .list kind items => items.isLayout kind 1

theorem ItemTrees.isLayout (kind : ListKind) : ∀ (items : ItemTrees) (n : Nat), IsLayout (items.layout kind n)
  | .last item, n => item.isLayout kind n
  | .cons item rest, n => (item.isLayout kind n).append (rest.isLayout kind (n + 1))

theorem ItemTree.isLayout (kind : ListKind) (n : Nat) : ∀ item : ItemTree, IsLayout (item.layout (marker kind n))
  | .line text ne_nil => (text.isLayout_singleton ne_nil).hang kind n
  | .nested text below => (text.isLayout below.isLayout).hang kind n

end

/-! ## Entries -/

theorem mem_join {sep : Text} {ls : List Text} {c : Char} (h : c ∈ Text.join sep ls) : c ∈ sep ∨ ∃ l ∈ ls, c ∈ l := by
  induction ls with
  | nil => simp [Text.join] at h
  | cons l ls ih =>
    cases ls with
    | nil => exact .inr ⟨l, List.mem_cons_self, h⟩
    | cons l' ls =>
      rw [Text.join_cons_cons, List.mem_append, List.mem_append] at h
      rcases h with (h | h) | h
      · exact .inr ⟨l, List.mem_cons_self, h⟩
      · exact .inl h
      · rcases ih h with hsep | ⟨l'', hl'', hc⟩
        · exact .inl hsep
        · exact .inr ⟨l'', List.mem_cons_of_mem _ hl'', hc⟩

namespace IsLayout

variable {lines : List Text}

theorem backslash_not_mem_block (h : IsLayout lines) : '\\' ∉ block lines := by
  have hjoin : '\\' ∉ Text.join ['\n'] lines := fun hc => by
    rcases mem_join hc with hc | ⟨l, hl, hc⟩
    · simp at hc
    · exact (h.line l hl).noCommand hc
  simp [block, blankLine, hjoin]

/-- The lines put together start with a character that is no white space. -/
theorem exists_join_eq_cons (h : IsLayout lines) :
    ∃ c u, Text.join ['\n'] lines = c :: u ∧ Text.isBlank c = false := by
  obtain ⟨first, rest, rfl⟩ := List.exists_cons_of_ne_nil h.ne_nil
  obtain ⟨c, l, rfl⟩ := List.exists_cons_of_ne_nil (h.line first List.mem_cons_self).ne_nil
  have hc := h.first (c :: l) rfl c rfl
  cases rest with
  | nil => exact ⟨c, l, rfl, hc⟩
  | cons l' rest => exact ⟨c, l ++ ['\n'] ++ Text.join ['\n'] (l' :: rest), rfl, hc⟩

/-- They end with one too. -/
theorem exists_join_eq_concat (h : IsLayout lines) :
    ∃ u c, Text.join ['\n'] lines = u ++ [c] ∧ Text.isBlank c = false := by
  obtain ⟨first, rest, rfl⟩ := List.exists_cons_of_ne_nil h.ne_nil
  have hlines := h.line
  clear h
  induction rest generalizing first with
  | nil =>
    have hfirst := hlines first List.mem_cons_self
    have hlast := List.getLast?_eq_some_getLast hfirst.ne_nil
    exact ⟨_, _, (List.dropLast_concat_getLast hfirst.ne_nil).symm, hfirst.last _ hlast⟩
  | cons l rest ih =>
    obtain ⟨u, c, hjoin, hc⟩ := ih l (List.forall_mem_cons.1 hlines).2
    exact ⟨first ++ ['\n'] ++ u, c, by rw [Text.join_cons_cons, hjoin, List.append_assoc (first ++ ['\n'])], hc⟩

/-- The lines of a layout are read back. -/
theorem splitOn_join (h : IsLayout lines) : Text.splitOn ['\n'] (Text.join ['\n'] lines) = lines :=
  Text.splitOn_join h.ne_nil fun l hl => (h.line l hl).oneLine

theorem entryLines_eq (h : IsLayout lines) : (lines.map Text.trimEnd).filter (· ≠ []) = lines := by
  have htrim : lines.map Text.trimEnd = lines := by
    conv => rhs; rw [← List.map_id lines]
    exact List.map_congr_left fun l hl => (h.line l hl).trimEnd
  rw [htrim, List.filter_eq_self]
  intro l hl
  simpa using (h.line l hl).ne_nil

theorem layoutItem_eq (h : IsLayout lines) (marker : Text) : layoutItem marker lines = ListBlock.hang marker lines := by
  obtain ⟨first, rest, rfl⟩ := List.exists_cons_of_ne_nil h.ne_nil
  obtain ⟨c, l, rfl⟩ := List.exists_cons_of_ne_nil (h.line first List.mem_cons_self).ne_nil
  have hc := h.first (c :: l) rfl c rfl
  have hstart : Text.trimStart (c :: l) = c :: l := List.dropWhile_cons_of_neg (by simp [hc])
  rw [layoutItem, hstart, ListBlock.hang]

/-- An entry that is a layout between white space. -/
theorem layoutItem_trim (h : IsLayout lines) {a b : Text} (ha : Text.isBlankText a = true)
    (hb : Text.isBlankText b = true) (marker : Text) :
    layoutItem marker (entryLines (Text.trim (a ++ (Text.join ['\n'] lines ++ b)))) = ListBlock.hang marker lines := by
  obtain ⟨c, u, hfirst, hc⟩ := h.exists_join_eq_cons
  obtain ⟨v, d, hlast, hd⟩ := h.exists_join_eq_concat
  have htrim := Text.trim_between (x := Text.join ['\n'] lines) ha hb (by simpa [hfirst] using hc)
    (by simpa [hlast] using hd)
  rw [htrim, entryLines, h.splitOn_join, h.entryLines_eq, h.layoutItem_eq]

/-- An entry that is a text with the block of a layout behind it. The blank line between them is a line
too, and it is dropped. -/
theorem layoutItem_trim_text (h : IsLayout lines) {t : ItemText} (ht : t.text ≠ []) (marker : Text) :
    layoutItem marker (entryLines (Text.trim (' ' :: (t.text ++ block lines)))) =
      ListBlock.hang marker (t.text :: lines) := by
  have hlayout := t.isLayout_cons ht h.line
  have hentry : ' ' :: (t.text ++ block lines) =
      [' '] ++ (t.text ++ '\n' :: ([] ++ '\n' :: Text.join ['\n'] lines) ++ blankLine) := by
    simp [block, blankLine]
  obtain ⟨c, u, hu⟩ := List.exists_cons_of_ne_nil ht
  obtain ⟨v, d, hlast, hd⟩ := h.exists_join_eq_concat
  have htrim := Text.trim_between (a := [' ']) (b := blankLine)
    (x := t.text ++ '\n' :: ([] ++ '\n' :: Text.join ['\n'] lines)) (by decide) (by decide)
    (by simpa [hu] using t.head?_isBlank) (by simpa [hlast, List.getLast?_cons] using hd)
  have hsplit : Text.splitOn ['\n'] (t.text ++ '\n' :: ([] ++ '\n' :: Text.join ['\n'] lines)) =
      [t.text, []] ++ lines := by
    rw [Text.splitOn_append_cons, Text.splitOn_append_cons, h.splitOn_join, Text.splitOn_of_not_mem t.oneLine,
      Text.splitOn_of_not_mem List.not_mem_nil]
    rfl
  have hlines : entryLines (t.text ++ '\n' :: ([] ++ '\n' :: Text.join ['\n'] lines)) = t.text :: lines := by
    conv => rhs; rw [← hlayout.entryLines_eq]
    rw [entryLines, hsplit]
    simp [Text.trimEnd, List.filter_cons]
  rw [hentry, htrim, hlines, hlayout.layoutItem_eq]

end IsLayout

/-- What stands behind the word of an item when the list in it has been laid out. -/
def ItemTree.entry : ItemTree → Text
  | .line text _ => ' ' :: text.text
  | .nested text below => ' ' :: (text.text ++ block below.layout)

def ItemTrees.entries : ItemTrees → List Text
  | .last item => [item.entry]
  | .cons item rest => item.entry :: rest.entries

theorem ItemTree.backslash_not_mem_entry (item : ItemTree) : '\\' ∉ item.entry := by
  cases item with
  | line text _ => simpa [entry] using text.noCommand
  | nested text below => simpa [entry] using ⟨text.noCommand, below.isLayout.backslash_not_mem_block⟩

theorem ItemTrees.backslash_not_mem_entries : ∀ items : ItemTrees, ∀ e ∈ items.entries, '\\' ∉ e
  | .last item => by simpa [entries] using item.backslash_not_mem_entry
  | .cons item rest => by
    simpa [entries] using ⟨item.backslash_not_mem_entry, rest.backslash_not_mem_entries⟩

/-- **An entry is laid out** as the item that it is the entry of. -/
theorem ItemTree.layoutItem_entry (item : ItemTree) (marker : Text) :
    layoutItem marker (entryLines (Text.trim item.entry)) = item.layout marker := by
  cases item with
  | line text ne_nil =>
    have := (text.isLayout_singleton ne_nil).layoutItem_trim (a := [' ']) (b := []) (by decide) (by decide) marker
    simpa [entry, layout, Text.join] using this
  | nested text below =>
    have hbelow := below.isLayout
    rw [layout, entry]
    split
    · next ht =>
      have := hbelow.layoutItem_trim (a := ' ' :: blankLine) (b := blankLine) (by decide) (by decide) marker
      simpa [ht, block] using this
    · next ht => exact hbelow.layoutItem_trim_text ht marker

theorem ItemTree.isBlankText_entry (item : ItemTree) : Text.isBlankText item.entry = false := by
  cases item with
  | line text ne_nil =>
    have htext : Text.isBlankText text.text = false := by
      rwa [← Bool.not_eq_true, ← Text.trim_eq_nil_iff, text.trimmed]
    simpa [entry, Text.isBlankText, Text.isBlank] using htext
  | nested text below =>
    obtain ⟨c, u, hjoin, hc⟩ := below.isLayout.exists_join_eq_cons
    simp [entry, block, hjoin, Text.isBlankText, hc]

theorem ItemTrees.layoutEntries_entries (kind : ListKind) : ∀ (items : ItemTrees) (n : Nat),
    layoutEntries kind n items.entries = items.layout kind n
  | .last item, n => by
    simp [entries, layout, layoutEntries, item.isBlankText_entry, item.layoutItem_entry]
  | .cons item rest, n => by
    simp [entries, layout, layoutEntries, item.isBlankText_entry, item.layoutItem_entry,
      rest.layoutEntries_entries kind (n + 1)]

/-- The items of a list whose inner lists have been laid out. -/
def ItemTrees.flat (items : ItemTrees) : Text := items.entries.flatMap (itemWord ++ ·)

/-- **A list whose inner lists have been laid out** is laid out as its tree says. -/
theorem ItemTrees.render_flat (items : ItemTrees) (kind : ListKind) :
    render kind items.flat = block (items.layout kind 1) := by
  have hsplit : Text.splitOn itemWord items.flat = [] :: items.entries :=
    Text.splitOn_pieces List.not_mem_nil items.backslash_not_mem_entries
  rw [render, hsplit]
  simp [layoutPreamble, Text.trim, Text.trimStart, Text.trimEnd, items.layoutEntries_entries, block]

/-! ## Rounds -/

theorem openCount_escape_of_ne {c : Char} (hc : c ≠ 'b') (s : Text) : openCount ('\\' :: c :: s) = openCount (c :: s) := by
  have hclosed : opensHere ('\\' :: c :: s) = false := by
    rw [opensHere, List.any_eq_false]
    rintro kind -
    cases kind <;> simp [Text.startsWith, openTag, Environment.beginMark, Text.after?, Ne.symm hc]
  rw [openCount, hclosed]
  simp

theorem openCount_itemWord_append {e : Text} (he : '\\' ∉ e) (s : Text) :
    openCount (itemWord ++ (e ++ s)) = openCount s := by
  have hword : itemWord ++ (e ++ s) = '\\' :: 'i' :: ("tem".toList ++ (e ++ s)) := rfl
  rw [hword, openCount_escape_of_ne (by decide)]
  have := openCount_append_of_not_mem (w := "item".toList ++ e) (by simp [he]) s
  simpa using this

theorem openCount_closeTag_append (kind : ListKind) (s : Text) :
    openCount (closeTag (environmentName kind) ++ s) = openCount s := by
  obtain ⟨w, hw, hbackslash⟩ : ∃ w, closeTag (environmentName kind) = '\\' :: 'e' :: w ∧ '\\' ∉ 'e' :: w := by
    cases kind <;> exact ⟨_, rfl, by decide⟩
  rw [hw, List.cons_append, List.cons_append, openCount_escape_of_ne (by decide), ← List.cons_append,
    openCount_append_of_not_mem hbackslash]

theorem cut?_itemWord_append (kind : ListKind) {e : Text} (he : '\\' ∉ e) (s : Text) :
    Text.cut? (closeTag (environmentName kind)) (itemWord ++ (e ++ s)) =
      (Text.cut? (closeTag (environmentName kind)) s).map fun (body, r) => (itemWord ++ (e ++ body), r) := by
  obtain ⟨w, hw⟩ : ∃ w, closeTag (environmentName kind) = '\\' :: 'e' :: w := by cases kind <;> exact ⟨_, rfl⟩
  have hword : itemWord ++ (e ++ s) = '\\' :: ("item".toList ++ e ++ s) := by simp [itemWord]
  have hnone : Text.after? ('\\' :: 'e' :: w) ('\\' :: ("item".toList ++ e ++ s)) = none := rfl
  rw [hw, hword, Text.cut?, hnone, Text.cut?_append_of_not_mem (by simp [he])]
  cases Text.cut? ('\\' :: 'e' :: w) s <;> simp [itemWord]

namespace ItemTrees

theorem openCount_flat_append (items : ItemTrees) (s : Text) : openCount (items.flat ++ s) = openCount s := by
  have hentries : ∀ es : List Text, (∀ e ∈ es, '\\' ∉ e) → openCount (es.flatMap (itemWord ++ ·) ++ s) = openCount s := by
    intro es hes
    induction es with
    | nil => rfl
    | cons e es ih =>
      obtain ⟨he, hes⟩ := List.forall_mem_cons.1 hes
      rw [List.flatMap_cons, List.append_assoc, List.append_assoc, openCount_itemWord_append he, ih hes]
  exact hentries _ items.backslash_not_mem_entries

/-- The body ends at its own closing tag. -/
theorem cut?_flat_append (items : ItemTrees) (kind : ListKind) (r : Text) :
    Text.cut? (closeTag (environmentName kind)) (items.flat ++ (closeTag (environmentName kind) ++ r)) =
      some (items.flat, r) := by
  have hentries : ∀ es : List Text, (∀ e ∈ es, '\\' ∉ e) →
      Text.cut? (closeTag (environmentName kind)) (es.flatMap (itemWord ++ ·) ++ (closeTag (environmentName kind) ++ r)) =
        some (es.flatMap (itemWord ++ ·), r) := by
    intro es hes
    induction es with
    | nil => exact Text.cut?_self_append _ r
    | cons e es ih =>
      obtain ⟨he, hes⟩ := List.forall_mem_cons.1 hes
      rw [List.flatMap_cons, List.append_assoc, List.append_assoc, cut?_itemWord_append kind he, ih hes]
      simp
  exact hentries _ items.backslash_not_mem_entries

end ItemTrees

mutual

/-- **A list is laid out by rounds**, whatever stands in front of it, and whatever stands behind it if no
list opens there. -/
theorem ListTree.rounds : ∀ (t : ListTree) (a : Text) {r : Text}, openCount r = 0 →
    Rounds (a ++ (t.source ++ r)) (a ++ (block t.layout ++ r))
  | .list kind items, a, r, hr => by
    have hbehind : openCount (closeTag (environmentName kind) ++ r) = 0 := by rw [openCount_closeTag_append, hr]
    have hitems := items.rounds (a ++ openTag (environmentName kind)) hbehind
    have hbody : renderLast? (items.flat ++ (closeTag (environmentName kind) ++ r)) = none := by
      have := renderLast?_append_eq_none (a := items.flat ++ (closeTag (environmentName kind) ++ r)) (b := [])
        (by rw [items.openCount_flat_append, hbehind]) (by simp) rfl
      simpa using this
    have hround := renderLast?_openTag_append kind hbody
    rw [items.cut?_flat_append] at hround
    simp only [Option.map_some, items.render_flat] at hround
    have hround := renderLast?_append hround a
    simpa [ListTree.source, ListTree.layout] using hitems.tail (by simpa using hround)

/-- The lists in items are laid out, those of the last item first. -/
theorem ItemTrees.rounds : ∀ (items : ItemTrees) (a : Text) {r : Text}, openCount r = 0 →
    Rounds (a ++ (items.source ++ r)) (a ++ (items.flat ++ r))
  | .last item, a, r, hr => by
    simpa [ItemTrees.source, ItemTrees.flat, ItemTrees.entries] using item.rounds a hr
  | .cons item rest, a, r, hr => by
    have hrest := rest.rounds (a ++ item.source) hr
    have hitem := item.rounds a (r := rest.flat ++ r) (by rw [rest.openCount_flat_append, hr])
    have hflat : (ItemTrees.cons item rest).flat = itemWord ++ item.entry ++ rest.flat := rfl
    rw [hflat, ItemTrees.source]
    simp only [List.append_assoc] at hrest hitem ⊢
    exact hrest.trans hitem

theorem ItemTree.rounds : ∀ (item : ItemTree) (a : Text) {r : Text}, openCount r = 0 →
    Rounds (a ++ (item.source ++ r)) (a ++ (itemWord ++ (item.entry ++ r)))
  | .line text _, a, r, _ => by
    simp only [ItemTree.source, ItemTree.entry, List.append_assoc, List.cons_append]
    exact .refl
  | .nested text below, a, r, hr => by
    have hbelow := below.rounds (a ++ (itemWord ++ ' ' :: text.text)) hr
    simpa [ItemTree.source, ItemTree.entry] using hbelow

end

/-- **Nested lists are laid out as their tree says**, at every depth. -/
theorem renderAll_source (t : ListTree) : renderAll t.source = blankLine ++ Text.join ['\n'] t.layout ++ blankLine := by
  have hrounds := t.rounds [] (r := []) rfl
  simp only [List.nil_append, List.append_nil] at hrounds
  rw [List.append_assoc]
  refine renderAll_of_rounds hrounds ?_
  have := renderLast?_append_eq_none (a := block t.layout) (b := [])
    (by simpa [openCount] using openCount_append_of_not_mem t.isLayout.backslash_not_mem_block []) (by simp) rfl
  simpa [block] using this

-- An item without a text starts with the first line of the list in it.
example : (ListTree.list .ordered
      (.cons (.line ⟨['a'], by decide, by decide, by decide⟩ (by decide))
        (.last (.nested ⟨[], by decide, by decide, by decide⟩
          (.list .unordered (.cons (.line ⟨['b'], by decide, by decide, by decide⟩ (by decide))
            (.last (.line ⟨['c'], by decide, by decide, by decide⟩ (by decide))))))))).layout =
    ["1. a".toList, "2. - b".toList, "   - c".toList] := by decide

end Coursebook.Command.ListBlock
