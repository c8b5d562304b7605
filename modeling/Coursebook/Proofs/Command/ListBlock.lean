/-
Laying a list environment out, as edits. Each `\item` word is exchanged for
a line ending and a marker, together with whatever white space, blank items
and options stand in front of it (`shrinks_entries`). What the layout does
inside an item is to white space alone (`respaces_entryLines`).

`renderAll` changes a text exactly if a list environment in it is closed
(`outcome_renderAll`).
-/
import Coursebook.Proofs.Command.Edit
import Coursebook.Proofs.Text.Trim

namespace Coursebook.Environment

/-! ## Closed environments -/

/-- Whether an environment of this name is opened in a text and closed behind. -/
def IsClosedIn (name t : Text) : Prop := ∃ a body r, t = a ++ (openTag name ++ (body ++ (closeTag name ++ r)))

theorem not_isClosedIn_nil (name : Text) : ¬IsClosedIn name [] := by
  rintro ⟨a, body, r, h⟩
  have := congrArg List.length h
  have := openTag_length_pos name
  simp only [List.length_append, List.length_nil] at *
  omega

theorem isClosedIn_cons {name t : Text} {c : Char} : IsClosedIn name (c :: t) ↔
    (∃ body r, c :: t = openTag name ++ (body ++ (closeTag name ++ r))) ∨ IsClosedIn name t := by
  constructor
  · rintro ⟨a, body, r, h⟩
    cases a with
    | nil => exact .inl ⟨body, r, h⟩
    | cons d a =>
      exact .inr ⟨a, body, r, (List.cons.inj h).2⟩
  · rintro (⟨body, r, h⟩ | ⟨a, body, r, rfl⟩)
    · exact ⟨[], body, r, h⟩
    · exact ⟨c :: a, body, r, rfl⟩

/-- Reading an opening tag and what is in front of the first closing tag. -/
theorem isSome_read_iff {name s : Text} :
    (∃ body r, s = openTag name ++ (body ++ (closeTag name ++ r))) ↔
      ∃ t body r, Text.after? (openTag name) s = some t ∧ Text.cut? (closeTag name) t = some (body, r) := by
  constructor
  · rintro ⟨body, r, rfl⟩
    have hcut : (Text.cut? (closeTag name) (body ++ (closeTag name ++ r))).isSome :=
      Text.cut?_isSome_iff.2 ⟨body, r, by simp⟩
    obtain ⟨⟨body', r'⟩, hcut⟩ := Option.isSome_iff_exists.1 hcut
    exact ⟨_, body', r', Text.after?_append _ _, hcut⟩
  · rintro ⟨t, body, r, hafter, hcut⟩
    refine ⟨body, r, ?_⟩
    rw [Text.after?_eq_some.1 hafter, Text.eq_of_cut? hcut, List.append_assoc]

end Coursebook.Environment

namespace Coursebook.Command

open Text (isBlankText)

namespace ListBlock

/-! ## Lines -/

/-- Lines, each behind a line ending. -/
def below (lines : List Text) : Text := lines.flatMap ('\n' :: ·)

theorem below_append (ls ls' : List Text) : below (ls ++ ls') = below ls ++ below ls' := List.flatMap_append

theorem below_cons (l : Text) (ls : List Text) : below (l :: ls) = '\n' :: (l ++ below ls) := rfl

theorem below_eq_join (l : Text) (ls : List Text) : below (l :: ls) = '\n' :: Text.join ['\n'] (l :: ls) := by
  induction ls generalizing l with
  | nil => simp [below, Text.join]
  | cons l' ls ih =>
    have : Text.join ['\n'] (l :: l' :: ls) = l ++ ['\n'] ++ Text.join ['\n'] (l' :: ls) := rfl
    rw [below_cons, ih, this]
    simp

/-- Lines stand behind a blank line as they stand behind a line ending each. -/
theorem respaces_below (ls : List Text) :
    Respaces (below ls ++ blankLine) (blankLine ++ (Text.join ['\n'] ls ++ blankLine)) := by
  cases ls with
  | nil => exact .blank (by decide) (by decide) (by decide) (by decide)
  | cons l ls =>
    have hfirst : Respaces ['\n'] blankLine := .blank (by decide) (by decide) (by decide) (by decide)
    rw [below_eq_join]
    exact hfirst.append .refl

theorem exists_below_eq (ls : List Text) (s : Text) : ∃ t, below ls ++ '\n' :: s = '\n' :: t := by
  cases ls with
  | nil => exact ⟨s, rfl⟩
  | cons l ls => exact ⟨_, rfl⟩

/-! ## Items -/

def kept (lines : List Text) : List Text := (lines.map Text.trimEnd).filter (· ≠ [])

/-- White space at the end of a line goes. -/
theorem respaces_line (l s : Text) : Respaces (l ++ '\n' :: s) (Text.trimEnd l ++ '\n' :: s) := by
  have htrail : Respaces (Text.trailingBlank l ++ ['\n']) ['\n'] := by
    refine .blank ?_ (by decide) (by simp) (by simp)
    rw [Text.isBlankText_append, Text.isBlankText_trailingBlank]
    rfl
  have hl : l ++ '\n' :: s = Text.trimEnd l ++ ((Text.trailingBlank l ++ ['\n']) ++ s) := by
    rw [List.append_assoc, ← List.append_assoc, Text.trimEnd_append_trailingBlank]
    rfl
  rw [hl]
  exact Respaces.append .refl (htrail.append .refl)

/-- The lines of an item lose blank lines and white space at their ends, and get an indent. -/
theorem respaces_lines (n : Nat) (ls : List Text) :
    Respaces (below ls ++ ['\n']) (below ((kept ls).map (List.replicate n ' ' ++ ·)) ++ ['\n']) := by
  induction ls with
  | nil => exact .refl
  | cons l ls ih =>
    obtain ⟨t, ht⟩ := exists_below_eq ((kept ls).map (List.replicate n ' ' ++ ·)) []
    have hline : Respaces (below (l :: ls) ++ ['\n']) ('\n' :: (Text.trimEnd l ++ '\n' :: t)) := by
      have hrest : Respaces ('\n' :: (l ++ (below ls ++ ['\n']))) ('\n' :: (l ++ '\n' :: t)) :=
        .cons '\n' (.append .refl (ht ▸ ih))
      rw [below_cons, List.cons_append, List.append_assoc]
      exact hrest.trans (Respaces.cons '\n' (respaces_line l t))
    refine hline.trans ?_
    by_cases hl : Text.trimEnd l = []
    · -- A blank line goes.
      have hkept : kept (l :: ls) = kept ls := by simp [kept, hl]
      have hblank : Respaces ['\n', '\n'] ['\n'] := .blank (by decide) (by decide) (by simp) (by simp)
      rw [hkept, ht, hl]
      exact hblank.append .refl
    · have hkept : below ((kept (l :: ls)).map (List.replicate n ' ' ++ ·)) ++ ['\n'] =
          ('\n' :: List.replicate n ' ') ++ (Text.trimEnd l ++ '\n' :: t) := by
        simp [kept, hl, below_cons, ← ht]
      have hindent : Respaces ['\n'] ('\n' :: List.replicate n ' ') := by
        refine .blank (by decide) ?_ (by simp) (by simp)
        simp [isBlankText, Text.isBlank]
      rw [hkept]
      exact hindent.append .refl

/-- **What the layout does inside an item** is to white space alone. -/
theorem respaces_entryLines (entry : Text) {core : Text} (hcore : Text.trim entry = core) (hne : core ≠ []) (n : Nat) :
    ∃ first rest, entryLines core = first :: rest ∧
      Respaces (core ++ ['\n']) (Text.trimStart first ++ (below (rest.map (List.replicate n ' ' ++ ·)) ++ ['\n'])) := by
  obtain ⟨l, ls, hsplit⟩ := List.exists_cons_of_ne_nil (Text.splitOn_ne_nil ['\n'] core)
  have hlines : core = l ++ below ls := Text.eq_of_splitOn hsplit
  obtain ⟨c, core', rfl⟩ := List.exists_cons_of_ne_nil hne
  have hc : Text.isBlank c = false := Text.isBlank_of_trim hcore
  -- The first line starts with the first character of the item, so it is not blank.
  obtain ⟨l', rfl⟩ : ∃ l', l = c :: l' := by
    cases l with
    | nil =>
      cases ls with
      | nil => simp [below] at hlines
      | cons l' ls =>
        obtain ⟨rfl, -⟩ := List.cons.inj hlines
        simp [Text.isBlank] at hc
    | cons d l' =>
      obtain ⟨rfl, -⟩ := List.cons.inj hlines
      exact ⟨l', rfl⟩
  have hl : Text.trimEnd (c :: l') ≠ [] := by
    rw [Ne, Text.trimEnd_eq_nil_iff, Text.isBlankText_cons hc]
    simp
  have hstart : Text.trimStart (Text.trimEnd (c :: l')) = Text.trimEnd (c :: l') := by
    obtain ⟨d, t, hd⟩ := List.exists_cons_of_ne_nil hl
    obtain ⟨u, hu⟩ := Text.trimEnd_isPrefix (c :: l')
    rw [hd, List.cons_append] at hu
    obtain ⟨rfl, -⟩ := List.cons.inj hu
    rw [hd, Text.trimStart, List.dropWhile_cons_of_neg (by simp [hc])]
  refine ⟨Text.trimEnd (c :: l'), kept ls, by simp [entryLines, hsplit, kept, hl], ?_⟩
  obtain ⟨t, ht⟩ := exists_below_eq ((kept ls).map (List.replicate n ' ' ++ ·)) []
  have hrest : Respaces ((c :: l') ++ (below ls ++ ['\n'])) ((c :: l') ++ '\n' :: t) :=
    .append .refl (ht ▸ respaces_lines n ls)
  rw [hlines, hstart, ht, List.append_assoc]
  exact hrest.trans (respaces_line (c :: l') t)

theorem inert_marker (kind : ListKind) (n : Nat) : Inert ('\n' :: (marker kind n ++ [' '])) := by
  have hdigits : Inert (Text.ofNat n) := by
    refine ⟨fun c hc hmem => ?_, fun c hc => ?_⟩
    · have hnone : (['\\', '$', '{', '}', '[', Segment.maskOpen, Segment.maskClose].all
          (!Text.isAsciiDigit ·)) = true := by decide
      simpa [Text.isAsciiDigit_of_mem_ofNat hc] using List.all_eq_true.1 hnone c hmem
    · exact Text.isAsciiLetter_of_digit (Text.isAsciiDigit_of_mem_ofNat (List.mem_of_mem_head? hc))
  cases kind with
  | ordered => exact Inert.append (w := ['\n']) (by decide) ((hdigits.append (by decide)).append (by decide))
  | unordered => exact (by decide : Inert ['\n', '-', ' '])

theorem isBlankText_marker (kind : ListKind) (n : Nat) : isBlankText ('\n' :: (marker kind n ++ [' '])) = false := by
  cases kind with
  | ordered => simp [marker, isBlankText, Text.isBlank]
  | unordered => exact (by decide : isBlankText ['\n', '-', ' '] = false)

theorem closeTag_mem_listTags (kind : ListKind) : Environment.closeTag (environmentName kind) ∈ listTags := by
  cases kind <;> decide

theorem ends_closeTag (kind : ListKind) : Ends (Environment.closeTag (environmentName kind)) :=
  ⟨_, '}', rfl, by decide⟩

/-- **An entry and what follows it.** The word of an item is exchanged for its marker, with the blank
items and the rest of the last line in front of it. -/
theorem shrinks_entries (kind : ListKind) (n : Nat) (entries : List Text) {w : Text} (hw : Plain w) :
    Shrinks true (w ++ (entries.flatMap (itemWord ++ ·) ++ Environment.closeTag (environmentName kind)))
      (below (layoutEntries kind n entries) ++ blankLine) := by
  induction entries generalizing w n with
  | nil =>
    have hplain : Plain (Environment.closeTag (environmentName kind)) := by cases kind <;> decide
    have hex : Exchange true (w ++ Environment.closeTag (environmentName kind)) blankLine := by
      refine .listTag (hw.append hplain) (ends_closeTag kind |>.append_left w) (fun p => ?_) (by decide) (by decide)
      rw [Place.after_append, Place.tag_after, Tag.after_listTag (closeTag_mem_listTags kind)]
    simpa [layoutEntries, below] using Shrinks.of_exchange hex (by simp [Environment.closeTag, Environment.endMark])
  | cons entry entries ih =>
    have hitem : Plain itemWord := by decide
    by_cases hblank : Text.isBlankText entry = true
    · -- A blank item is part of what stands in front of the next one.
      have := ih n (hw.append (hitem.append (plain_of_isBlankText hblank)))
      simpa [layoutEntries, hblank] using this
    · have hcore : Text.trim entry ≠ [] := by rwa [Ne, Text.trim_eq_nil_iff]
      have hlead := Text.isBlankText_leadingBlank entry
      obtain ⟨first, rest, hlines, hspace⟩ := respaces_entryLines entry rfl hcore ((marker kind n).length + 1)
      obtain ⟨t, ht⟩ := exists_below_eq (layoutEntries kind (n + 1) entries) ['\n']
      -- The word, with what stands in front of it and the white space behind it.
      have hword : Exchange true (w ++ (itemWord ++ Text.leadingBlank entry)) ('\n' :: (marker kind n ++ [' '])) :=
        .marker (hw.append (hitem.append (plain_of_isBlankText hlead)))
          ((Ends.append_blank ⟨['\\', 'i', 't', 'e'], 'm', by decide, by decide⟩ hlead).append_left w)
          (inert_marker kind n) (by decide) (isBlankText_marker kind n)
      have hbehind := ih (n + 1) (plain_of_isBlankText (Text.isBlankText_trailingBlank (Text.trimStart entry)))
      have hshrinks := Shrinks.append_left (.exchange hword) (Shrinks.append_left (.refl (a := Text.trim entry)) hbehind)
      have hx : w ++ ((entry :: entries).flatMap (itemWord ++ ·) ++ Environment.closeTag (environmentName kind)) =
          (w ++ (itemWord ++ Text.leadingBlank entry)) ++ (Text.trim entry ++ (Text.trailingBlank (Text.trimStart entry) ++
            (entries.flatMap (itemWord ++ ·) ++ Environment.closeTag (environmentName kind)))) := by
        conv => lhs; rw [List.flatMap_cons, ← Text.leading_trim_trailing entry]
        simp
      have hy : below (layoutEntries kind n (entry :: entries)) ++ blankLine =
          ('\n' :: (marker kind n ++ [' '])) ++ (Text.trimStart first ++
            (below (rest.map (List.replicate ((marker kind n).length + 1) ' ' ++ ·)) ++ '\n' :: t)) := by
        rw [← ht]
        simp [layoutEntries, hblank, hlines, layoutItem, below_append, below_cons, blankLine]
      rw [hx, hy]
      refine hshrinks.trans_lowers (Lowers.append .refl ?_)
      have := (hspace.append (.refl (a := t))).lowers true
      rw [blankLine, ht]
      simpa using this

/-! ## Environments -/

theorem plain_openTag (kind : ListKind) : Plain (Environment.openTag (environmentName kind)) := by cases kind <;> decide

theorem ends_openTag (kind : ListKind) : Ends (Environment.openTag (environmentName kind)) := ⟨_, '}', rfl, by decide⟩

theorem tag_after_openTag (kind : ListKind) {b : Text} (hb : isBlankText b = true) (p : Place) :
    (p.after (Environment.openTag (environmentName kind) ++ b)).tag = .behind := by
  have htag : Environment.openTag (environmentName kind) ∈ listTags := by cases kind <;> decide
  rw [Place.after_append, Place.tag_after, Place.tag_after, Tag.after_listTag htag,
    Tag.after_behind (inert_of_isBlankText hb).backslash_not_mem, if_pos hb]

/-- The opening tag, with white space behind it, is exchanged for a blank line. -/
theorem exchange_openTag (kind : ListKind) {b : Text} (hb : isBlankText b = true) :
    Exchange true (Environment.openTag (environmentName kind) ++ b) blankLine :=
  .listTag ((plain_openTag kind).append (plain_of_isBlankText hb)) ((ends_openTag kind).append_blank hb)
    (tag_after_openTag kind hb) (by decide) (by decide)

/-- Options behind the opening tag are dropped. -/
theorem lowers_options (kind : ListKind) {b : Text} (hb : isBlankText b = true) (u s : Text) :
    Lowers true (Environment.openTag (environmentName kind) ++ (b ++ '[' :: (u ++ '\n' :: s))) ('\n' :: '\n' :: s) := by
  have hplain := (plain_openTag kind).append (plain_of_isBlankText hb)
  have := Edit.dropOption [] u s rfl hplain ((ends_openTag kind).append_blank hb) (tag_after_openTag kind hb)
  simpa using Relation.ReflTransGen.single this

/-- **A list environment is laid out** by edits, which take its tags away. -/
theorem shrinks_render (kind : ListKind) (body : Text) :
    Shrinks true (Environment.openTag (environmentName kind) ++ (body ++ Environment.closeTag (environmentName kind)))
      (render kind body) := by
  obtain ⟨preamble, entries, hsplit⟩ := List.exists_cons_of_ne_nil (Text.splitOn_ne_nil itemWord body)
  have hbody := Text.eq_of_splitOn hsplit
  have hitems := respaces_below (layoutEntries kind 1 entries)
  have hlead := Text.isBlankText_leadingBlank preamble
  have hpreamble := Text.leading_trim_trailing preamble
  have hentries := shrinks_entries kind 1 entries
    (plain_of_isBlankText (Text.isBlankText_trailingBlank (Text.trimStart preamble)))
  rw [render, hsplit, hbody]
  simp only [layoutPreamble]
  split
  · next hp =>
    -- The opening tag is part of what stands in front of the first item.
    have hblank := Text.trim_eq_nil_iff.1 hp
    have hentries := shrinks_entries kind 1 entries ((plain_openTag kind).append (plain_of_isBlankText hblank))
    simpa using hentries.trans_lowers (hitems.lowers true)
  · next u hp =>
    obtain ⟨t, ht⟩ := exists_below_eq (layoutEntries kind 1 entries) ['\n']
    have hdrop := lowers_options kind hlead u t
    have hspace : Respaces ('\n' :: '\n' :: t)
        (blankLine ++ (Text.join ['\n'] (layoutEntries kind 1 entries) ++ blankLine)) := by
      have hblank : Respaces ['\n', '\n', '\n'] blankLine := .blank (by decide) (by decide) (by decide) (by decide)
      rw [← ht]
      exact (Respaces.cons '\n' hitems).trans (hblank.append .refl)
    have hshrinks := Shrinks.append_left
      (.refl (a := Environment.openTag (environmentName kind) ++ (Text.leadingBlank preamble ++ '[' :: u))) hentries
    rw [← hpreamble, hp]
    rw [show blankLine = '\n' :: ['\n'] from rfl, ht] at hshrinks
    have := (hshrinks.trans_lowers (by simpa using hdrop)).trans_lowers (hspace.lowers true)
    simpa using this
  · next hp =>
    have hshrinks := Shrinks.append_left (.exchange (exchange_openTag kind hlead))
      (Shrinks.append_left (.refl (a := Text.trim preamble)) (hentries.trans_lowers (hitems.lowers true)))
    conv => lhs; rw [← hpreamble]
    simpa using hshrinks

/-- What the layout of the environment at the head of a text is. -/
theorem eq_of_renderHead? {s t : Text} (h : renderHead? s = some t) : ∃ kind body r,
    s = Environment.openTag (environmentName kind) ++ (body ++ (Environment.closeTag (environmentName kind) ++ r)) ∧
      t = render kind body ++ r := by
  obtain ⟨kind, -, hkind⟩ := List.exists_of_findSome?_eq_some h
  simp only [Option.bind_eq_bind, Option.bind_eq_some_iff, Option.pure_def, Option.some.injEq, Prod.exists] at hkind
  obtain ⟨s', hafter, body, r, hcut, rfl⟩ := hkind
  exact ⟨kind, body, r, by rw [Text.after?_eq_some.1 hafter, Text.eq_of_cut? hcut, List.append_assoc], rfl⟩

theorem isSome_renderHead?_iff {s : Text} : (renderHead? s).isSome ↔ ∃ kind body r,
    s = Environment.openTag (environmentName kind) ++ (body ++ (Environment.closeTag (environmentName kind) ++ r)) := by
  constructor
  · intro h
    obtain ⟨t, ht⟩ := Option.isSome_iff_exists.1 h
    obtain ⟨kind, body, r, hs, -⟩ := eq_of_renderHead? ht
    exact ⟨kind, body, r, hs⟩
  · rintro ⟨kind, body, r, hs⟩
    obtain ⟨t, body', r', hafter, hcut⟩ := Environment.isSome_read_iff.1 ⟨body, r, hs⟩
    rw [renderHead?, List.findSome?_isSome_iff]
    exact ⟨kind, by cases kind <;> decide, by simp [hafter, hcut]⟩

theorem shrinks_renderLast? {s t : Text} (h : renderLast? s = some t) : Shrinks true s t := by
  induction s generalizing t with
  | nil => simp [renderLast?] at h
  | cons c s ih =>
    rw [renderLast?] at h
    split at h
    · next t' ht' =>
      obtain rfl := Option.some.inj h
      exact Shrinks.append_left (x := [c]) .refl (ih ht')
    · obtain ⟨kind, body, r, hs, rfl⟩ := eq_of_renderHead? h
      rw [hs]
      simpa using (shrinks_render kind body).append_right (.refl (a := r))

/-- Whether a list environment is opened in a text and closed behind. -/
def HasList (s : Text) : Prop := ∃ kind, Environment.IsClosedIn (environmentName kind) s

theorem isSome_renderLast?_iff {s : Text} : (renderLast? s).isSome ↔ HasList s := by
  induction s with
  | nil => simp [renderLast?, HasList, Environment.not_isClosedIn_nil]
  | cons c s ih =>
    have hcons : HasList (c :: s) ↔ (renderHead? (c :: s)).isSome ∨ HasList s := by
      simp only [HasList, Environment.isClosedIn_cons, exists_or, isSome_renderHead?_iff]
    rw [hcons, ← ih, renderLast?]
    split
    · next t ht => simp [ht]
    · next ht => simp [ht]

theorem openCount_pos {s : Text} (h : HasList s) : 0 < openCount s := by
  obtain ⟨kind, a, body, r, rfl⟩ := h
  induction a with
  | nil =>
    obtain ⟨c, t, ht⟩ := List.exists_cons_of_length_pos (Environment.openTag_length_pos (environmentName kind))
    have hopen : opensHere (Environment.openTag (environmentName kind) ++
        (body ++ (Environment.closeTag (environmentName kind) ++ r))) = true := by
      rw [opensHere, List.any_eq_true]
      exact ⟨kind, by cases kind <;> decide, Text.after?_isSome_iff.2 (List.prefix_append _ _)⟩
    rw [List.nil_append]
    rw [ht, List.cons_append] at hopen ⊢
    rw [openCount, if_pos hopen]
    omega
  | cons c a ih =>
    rw [List.cons_append, openCount]
    omega

theorem lowers_renderUpTo (n : Nat) (s : Text) : Lowers true s (renderUpTo n s) := by
  induction n generalizing s with
  | zero => exact .refl
  | succ n ih =>
    rw [renderUpTo]
    split
    · next t ht => exact (shrinks_renderLast? ht).lowers.trans (ih t)
    · exact .refl

/-- **Lists are laid out** if there are any. -/
theorem outcome_renderAll (s : Text) : Outcome (Shrinks true) (HasList s) s (renderAll s) := by
  cases hlast : renderLast? s with
  | none =>
    have hnone : ¬HasList s := by simp [← isSome_renderLast?_iff, hlast]
    refine .inl ⟨hnone, ?_⟩
    rw [renderAll]
    cases openCount s with
    | zero => rfl
    | succ n => rw [renderUpTo, hlast]
  | some t =>
    have hsome : HasList s := by simp [← isSome_renderLast?_iff, hlast]
    obtain ⟨n, hn⟩ := Nat.exists_eq_succ_of_ne_zero (Nat.pos_iff_ne_zero.1 (openCount_pos hsome))
    refine .inr ⟨hsome, ?_⟩
    rw [renderAll, hn, Nat.succ_eq_add_one, renderUpTo, hlast]
    exact (shrinks_renderLast? hlast).trans_lowers (lowers_renderUpTo n t)

end ListBlock

end Coursebook.Command
