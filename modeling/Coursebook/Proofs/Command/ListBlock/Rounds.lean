/-
Laying out every list. One round lays out the last list environment that is
closed; it takes an opening tag away and brings none in
(`openCount_renderLast?`), so the rounds end, and the bound that `renderAll`
puts on their number is never what ends them (`renderLast?_renderAll`).

Where the last list environment is, a search finds that goes from the end of
the text to its start. `Search` is that search with a limit: an opening tag
that is never closed moves the limit in front of it, and a layout puts the
limit back to the end of the text. Each of its steps makes the text poorer in
opening tags, or keeps the text and moves the limit
(`Search.Step.wellFounded`).
-/
import Coursebook.Proofs.Command.ListBlock
import Mathlib.Order.WellFounded

namespace Coursebook.Command.ListBlock

open Environment (openTag closeTag)

/-! ## Opening tags -/

/-- An opening tag is a backslash, and none of the two characters that keep texts apart. -/
theorem openTag_eq_cons (kind : ListKind) : ∃ w, openTag (environmentName kind) = '\\' :: w ∧ '\\' ∉ w ∧ '\n' ∉ w := by
  cases kind <;> exact ⟨_, rfl, by decide, by decide⟩

theorem opensHere_cons_of_ne {c : Char} (hc : c ≠ '\\') (s : Text) : opensHere (c :: s) = false := by
  rw [opensHere, List.any_eq_false]
  rintro kind -
  obtain ⟨w, hw, -⟩ := openTag_eq_cons kind
  simp [hw, Text.startsWith, Text.after?, Ne.symm hc]

/-- A backslash or a line ending ends the tag in front of it. -/
theorem opensHere_append_cons {c : Char} (hc : c = '\\' ∨ c = '\n') (d : Char) (a b : Text) :
    opensHere (d :: (a ++ c :: b)) = opensHere (d :: a) := by
  have hstarts : ∀ kind, Text.startsWith (openTag (environmentName kind)) (d :: (a ++ c :: b)) =
      Text.startsWith (openTag (environmentName kind)) (d :: a) := by
    intro kind
    obtain ⟨w, hw, hbackslash, hline⟩ := openTag_eq_cons kind
    have hcw : c ∉ w := by rcases hc with rfl | rfl <;> assumption
    rw [hw, Text.startsWith, Text.startsWith, Text.after?, Text.after?]
    split
    · rw [Text.after?_append_cons hcw, Option.isSome_map]
    · rfl
  simp only [opensHere, hstarts]

theorem opensHere_append {s : Text} (h : opensHere s = true) (b : Text) : opensHere (s ++ b) = true := by
  rw [opensHere, List.any_eq_true] at h ⊢
  obtain ⟨kind, hkind, hs⟩ := h
  exact ⟨kind, hkind, Text.after?_isSome_iff.2 ((Text.after?_isSome_iff.1 hs).trans (List.prefix_append s b))⟩

theorem openCount_append_of_not_mem {w : Text} (hw : '\\' ∉ w) (s : Text) : openCount (w ++ s) = openCount s := by
  induction w with
  | nil => rfl
  | cons c w ih =>
    rw [List.mem_cons, not_or] at hw
    rw [List.cons_append, openCount, opensHere_cons_of_ne (Ne.symm hw.1), ih hw.2]
    simp

theorem openCount_append_cons {c : Char} (hc : c = '\\' ∨ c = '\n') (a b : Text) :
    openCount (a ++ c :: b) = openCount a + openCount (c :: b) := by
  induction a with
  | nil => simp [openCount]
  | cons d a ih =>
    rw [List.cons_append, openCount, openCount, opensHere_append_cons hc, ih]
    omega

/-- Texts put together have the opening tags of both. -/
theorem openCount_append_le (a b : Text) : openCount a + openCount b ≤ openCount (a ++ b) := by
  induction a with
  | nil => simp [openCount]
  | cons c a ih =>
    rw [List.cons_append, openCount, openCount]
    by_cases hc : opensHere (c :: a) = true
    · have : opensHere (c :: (a ++ b)) = true := opensHere_append hc b
      simp only [hc, this, if_true]
      omega
    · simp only [if_neg hc]
      omega

theorem openCount_infix {a b : Text} (h : a <:+: b) : openCount a ≤ openCount b := by
  obtain ⟨u, v, rfl⟩ := h
  have := openCount_append_le (u ++ a) v
  have := openCount_append_le u a
  omega

theorem openCount_line (a b : Text) : openCount (a ++ '\n' :: b) = openCount a + openCount b := by
  rw [openCount_append_cons (.inr rfl)]
  have : openCount ('\n' :: b) = openCount b := openCount_append_of_not_mem (w := ['\n']) (by decide) b
  rw [this]

/-- The opening tag itself, and those behind it. -/
theorem openCount_openTag_append (kind : ListKind) (s : Text) :
    openCount (openTag (environmentName kind) ++ s) = 1 + openCount s := by
  have hopen : opensHere (openTag (environmentName kind) ++ s) = true := by
    rw [opensHere, List.any_eq_true]
    exact ⟨kind, by cases kind <;> decide, Text.after?_isSome_iff.2 (List.prefix_append _ _)⟩
  obtain ⟨w, hw, hbackslash, -⟩ := openTag_eq_cons kind
  rw [hw, List.cons_append] at hopen ⊢
  rw [openCount, if_pos hopen, openCount_append_of_not_mem hbackslash]

/-! ## What a layout keeps of them -/

/-- The opening tags of texts that are kept apart. -/
def openCounts : List Text → Nat
  | [] => 0
  | l :: ls => openCount l + openCounts ls

theorem openCounts_cons (l : Text) (ls : List Text) : openCounts (l :: ls) = openCount l + openCounts ls := rfl

theorem openCounts_append (ls ls' : List Text) : openCounts (ls ++ ls') = openCounts ls + openCounts ls' := by
  induction ls with
  | nil => exact (Nat.zero_add _).symm
  | cons l ls ih => rw [List.cons_append, openCounts_cons, openCounts_cons, ih, Nat.add_assoc]

theorem openCounts_map {f : Text → Text} (h : ∀ l, openCount (f l) = openCount l) (ls : List Text) :
    openCounts (ls.map f) = openCounts ls := by
  induction ls with
  | nil => rfl
  | cons l ls ih => rw [List.map_cons, openCounts_cons, openCounts_cons, h, ih]

/-- A text has at least the opening tags of its pieces. -/
theorem openCounts_le_splitOn (sep s : Text) : openCounts (Text.splitOn sep s) ≤ openCount s := by
  obtain ⟨first, rest, hsplit⟩ := List.exists_cons_of_ne_nil (Text.splitOn_ne_nil sep s)
  have hpieces : ∀ rest : List Text, openCounts rest ≤ openCount (rest.flatMap (sep ++ ·)) := by
    intro rest
    induction rest with
    | nil => exact Nat.zero_le _
    | cons l rest ih =>
      have := openCount_append_le (sep ++ l) (rest.flatMap (sep ++ ·))
      have := openCount_append_le sep l
      rw [openCounts_cons, List.flatMap_cons]
      omega
  rw [hsplit, openCounts_cons, Text.eq_of_splitOn hsplit]
  exact (Nat.add_le_add_left (hpieces rest) _).trans (openCount_append_le _ _)

theorem openCount_join (ls : List Text) : openCount (Text.join ['\n'] ls) = openCounts ls := by
  cases ls with
  | nil => rfl
  | cons l ls =>
    induction ls generalizing l with
    | nil => simp [Text.join, openCounts]
    | cons l' ls ih =>
      have hjoin : Text.join ['\n'] (l :: l' :: ls) = l ++ '\n' :: Text.join ['\n'] (l' :: ls) := by simp [Text.join]
      rw [hjoin, openCount_line, ih, openCounts_cons l]

theorem openCounts_entryLines (entry : Text) : openCounts (entryLines entry) ≤ openCount entry := by
  have hkept : ∀ ls : List Text, openCounts ((ls.map Text.trimEnd).filter (· ≠ [])) ≤ openCounts ls := by
    intro ls
    induction ls with
    | nil => exact Nat.le_refl _
    | cons l ls ih =>
      have := openCount_infix (Text.trimEnd_isPrefix l).isInfix
      rw [List.map_cons, List.filter_cons, openCounts_cons]
      split
      · rw [openCounts_cons]
        omega
      · omega
  exact (hkept _).trans (openCounts_le_splitOn _ _)

theorem backslash_not_mem_marker (kind : ListKind) (n : Nat) : '\\' ∉ marker kind n ++ [' '] := fun h =>
  (inert_marker kind n).backslash_not_mem (List.mem_cons_of_mem _ h)

theorem openCounts_layoutItem (kind : ListKind) (n : Nat) (lines : List Text) :
    openCounts (layoutItem (marker kind n) lines) ≤ openCounts lines := by
  cases lines with
  | nil => exact Nat.le_refl _
  | cons first rest =>
    have hfirst : openCount (marker kind n ++ ' ' :: Text.trimStart first) ≤ openCount first := by
      rw [← List.singleton_append, ← List.append_assoc, openCount_append_of_not_mem (backslash_not_mem_marker kind n)]
      exact openCount_infix (Text.trimStart_suffix first).isInfix
    have hrest : ∀ m, openCounts (rest.map (List.replicate m ' ' ++ ·)) = openCounts rest := fun m =>
      openCounts_map (openCount_append_of_not_mem (by simp)) rest
    rw [layoutItem, openCounts_cons, openCounts_cons, hrest]
    omega

theorem openCounts_layoutEntries (kind : ListKind) (n : Nat) (entries : List Text) :
    openCounts (layoutEntries kind n entries) ≤ openCounts entries := by
  induction entries generalizing n with
  | nil => exact Nat.le_refl _
  | cons entry entries ih =>
    rw [layoutEntries, openCounts_cons]
    split
    · exact (ih n).trans (Nat.le_add_left _ _)
    · have hitem := openCounts_layoutItem kind n (entryLines (Text.trim entry))
      have hlines := openCounts_entryLines (Text.trim entry)
      have htrim := openCount_infix (Text.trim_infix entry)
      have := ih (n + 1)
      rw [openCounts_append]
      omega

theorem openCount_layoutPreamble_append (p s : Text) :
    openCount (layoutPreamble p ++ s) ≤ openCount p + openCount s := by
  unfold layoutPreamble
  split
  · exact Nat.le_add_left _ _
  · exact Nat.le_add_left _ _
  · have htrim := openCount_infix (Text.trim_infix p)
    have hline : openCount (Text.trim p ++ blankLine ++ s) = openCount (Text.trim p) + openCount s := by
      rw [List.append_assoc]
      show openCount (Text.trim p ++ '\n' :: ([] ++ '\n' :: s)) = _
      rw [openCount_line, openCount_line]
      simp [openCount]
    omega

/-- The line endings around a layout keep it apart from the text on either side. -/
theorem openCount_append_render_append (kind : ListKind) (a body r : Text) :
    openCount (a ++ (render kind body ++ r)) = openCount a + (openCount (render kind body) + openCount r) := by
  obtain ⟨mid, hmid⟩ : ∃ mid, render kind body = '\n' :: (mid ++ ['\n']) := by
    obtain ⟨preamble, entries, hsplit⟩ := List.exists_cons_of_ne_nil (Text.splitOn_ne_nil itemWord body)
    refine ⟨'\n' :: (layoutPreamble preamble ++ Text.join ['\n'] (layoutEntries kind 1 entries) ++ ['\n']), ?_⟩
    rw [render, hsplit]
    simp [blankLine]
  have hrender : openCount (render kind body) = openCount mid := by
    have := openCount_line [] (mid ++ ['\n'])
    rw [List.nil_append, openCount_line] at this
    simpa [hmid, openCount] using this
  have happend : openCount (a ++ (render kind body ++ r)) = openCount (a ++ '\n' :: (mid ++ '\n' :: r)) := by simp [hmid]
  rw [happend, openCount_line, openCount_line, hrender]

/-- **A layout brings no opening tag in.** -/
theorem openCount_render (kind : ListKind) (body : Text) : openCount (render kind body) ≤ openCount body := by
  obtain ⟨preamble, entries, hsplit⟩ := List.exists_cons_of_ne_nil (Text.splitOn_ne_nil itemWord body)
  have hpieces := openCounts_le_splitOn itemWord body
  have hentries := openCounts_layoutEntries kind 1 entries
  have hlast : openCount (Text.join ['\n'] (layoutEntries kind 1 entries) ++ blankLine) =
      openCounts (layoutEntries kind 1 entries) := by
    show openCount (_ ++ '\n' :: ['\n']) = _
    rw [openCount_line, openCount_join]
    simp [openCount, opensHere_cons_of_ne]
  have hpreamble := openCount_layoutPreamble_append preamble
    (Text.join ['\n'] (layoutEntries kind 1 entries) ++ blankLine)
  rw [hsplit, openCounts_cons] at hpieces
  rw [render, hsplit]
  simp only [List.append_assoc]
  rw [openCount_append_of_not_mem (w := blankLine) (by decide)]
  omega

/-! ## One round -/

theorem renderHead?_eq_none {s : Text} (h : opensHere s = false) : renderHead? s = none := by
  rw [opensHere, List.any_eq_false] at h
  rw [renderHead?, List.findSome?_eq_none_iff]
  intro kind hkind
  have hafter : Text.after? (openTag (environmentName kind)) s = none := by simpa [Text.startsWith] using h kind hkind
  rw [hafter]
  rfl

/-- The environment behind an opening tag is laid out if it is closed. -/
theorem renderHead?_openTag_append (kind : ListKind) (s : Text) :
    renderHead? (openTag (environmentName kind) ++ s) =
      (Text.cut? (closeTag (environmentName kind)) s).map fun (body, r) => render kind body ++ r := by
  have hother : ∀ other, other ≠ kind →
      Text.after? (openTag (environmentName other)) (openTag (environmentName kind) ++ s) = none := by
    intro other hne
    cases kind <;> cases other <;> first | rfl | exact absurd rfl hne
  cases kind with
  | unordered =>
    rw [renderHead?, kinds, List.findSome?_cons, Text.after?_append, List.findSome?_cons, hother .ordered (by decide)]
    cases hcut : Text.cut? (closeTag (environmentName .unordered)) s <;> simp [hcut]
  | ordered =>
    rw [renderHead?, kinds, List.findSome?_cons, hother .unordered (by decide), List.findSome?_cons, Text.after?_append]
    cases hcut : Text.cut? (closeTag (environmentName .ordered)) s <;> simp [hcut]

/-- No list is closed in a text with no opening tag in front of one in which none is closed. -/
theorem renderLast?_append_eq_none {a b : Text} (ha : openCount a = 0) (hb : ∀ c ∈ b.head?, c = '\\')
    (h : renderLast? b = none) : renderLast? (a ++ b) = none := by
  induction a with
  | nil => exact h
  | cons c a ih =>
    rw [openCount] at ha
    have hopen : opensHere (c :: (a ++ b)) = opensHere (c :: a) := by
      cases b with
      | nil => rw [List.append_nil]
      | cons d b => exact opensHere_append_cons (.inl (hb d rfl)) c a b
    have hhead : opensHere (c :: a) = false := by
      cases hc : opensHere (c :: a) with
      | false => rfl
      | true => simp [hc] at ha
    rw [List.cons_append, renderLast?, ih (by omega)]
    exact renderHead?_eq_none (hopen.trans hhead)

theorem renderLast?_openTag_append (kind : ListKind) {s : Text} (hs : renderLast? s = none) :
    renderLast? (openTag (environmentName kind) ++ s) =
      (Text.cut? (closeTag (environmentName kind)) s).map fun (body, r) => render kind body ++ r := by
  rw [← renderHead?_openTag_append]
  obtain ⟨w, hw, hbackslash, -⟩ := openTag_eq_cons kind
  have hrest : renderLast? (w ++ s) = none := by
    clear hw
    induction w with
    | nil => exact hs
    | cons c w ih =>
      rw [List.mem_cons, not_or] at hbackslash
      rw [List.cons_append, renderLast?, ih hbackslash.2]
      exact renderHead?_eq_none (opensHere_cons_of_ne (Ne.symm hbackslash.1) _)
  rw [hw, List.cons_append, renderLast?, hrest]

theorem renderLast?_append {s t : Text} (h : renderLast? s = some t) (a : Text) :
    renderLast? (a ++ s) = some (a ++ t) := by
  induction a with
  | nil => exact h
  | cons c a ih => rw [List.cons_append, renderLast?, ih, List.cons_append]

theorem eq_of_renderLast? {s t : Text} (h : renderLast? s = some t) : ∃ a kind body r,
    s = a ++ (openTag (environmentName kind) ++ (body ++ (closeTag (environmentName kind) ++ r))) ∧
      t = a ++ (render kind body ++ r) := by
  induction s generalizing t with
  | nil => simp [renderLast?] at h
  | cons c s ih =>
    rw [renderLast?] at h
    split at h
    · next t' ht' =>
      obtain rfl := Option.some.inj h
      obtain ⟨a, kind, body, r, rfl, rfl⟩ := ih ht'
      exact ⟨c :: a, kind, body, r, rfl, rfl⟩
    · obtain ⟨kind, body, r, hs, ht⟩ := eq_of_renderHead? h
      exact ⟨[], kind, body, r, hs, ht⟩

/-- The layout of an environment has one opening tag less. -/
theorem openCount_layout_lt (kind : ListKind) (a body r : Text) :
    openCount (a ++ (render kind body ++ r)) <
      openCount (a ++ (openTag (environmentName kind) ++ (body ++ (closeTag (environmentName kind) ++ r)))) := by
  have hopen : ∀ s, openCount (a ++ (openTag (environmentName kind) ++ s)) = openCount a + (1 + openCount s) := by
    intro s
    rw [← openCount_openTag_append]
    obtain ⟨w, hw, -⟩ := openTag_eq_cons kind
    rw [hw, List.cons_append, openCount_append_cons (.inl rfl)]
  have hlayout := openCount_append_render_append kind a body r
  have hbody := openCount_append_le body (closeTag (environmentName kind) ++ r)
  have hrest := openCount_append_le (closeTag (environmentName kind)) r
  have := openCount_render kind body
  rw [hopen, hlayout]
  omega

/-- **A round takes an opening tag away.** -/
theorem openCount_renderLast? {s t : Text} (h : renderLast? s = some t) : openCount t < openCount s := by
  obtain ⟨a, kind, body, r, rfl, rfl⟩ := eq_of_renderLast? h
  exact openCount_layout_lt kind a body r

/-- Round after round. -/
abbrev Rounds : Text → Text → Prop := Relation.ReflTransGen fun s t => renderLast? s = some t

theorem renderUpTo_of_rounds {s t : Text} (h : Rounds s t) (ht : renderLast? t = none) {n : Nat} (hn : openCount s ≤ n) :
    renderUpTo n s = t := by
  induction h using Relation.ReflTransGen.head_induction_on generalizing n with
  | refl =>
    cases n with
    | zero => rfl
    | succ n => rw [renderUpTo, ht]
  | @head s u hround _ ih =>
    have := openCount_renderLast? hround
    cases n with
    | zero => omega
    | succ n =>
      rw [renderUpTo, hround]
      exact ih (by omega)

/-- **Rounds that have come to their end** are what `renderAll` does. -/
theorem renderAll_of_rounds {s t : Text} (h : Rounds s t) (ht : renderLast? t = none) : renderAll s = t :=
  renderUpTo_of_rounds h ht (Nat.le_refl _)

/-! ## The search with a limit -/

/-- Reads an opening tag at the head of a text: the kind of its list, and what follows it. -/
def readOpen? (s : Text) : Option (ListKind × Text) :=
  kinds.findSome? fun kind => (Text.after? (openTag (environmentName kind)) s).map (kind, ·)

/-- Cuts a text around the last opening tag in it. -/
def cutLastOpen? : Text → Option (Text × ListKind × Text)
  | [] => none
  | c :: s =>
    match cutLastOpen? s with
    | some (a, kind, b) => some (c :: a, kind, b)
    | none => (readOpen? (c :: s)).map ([], ·)

theorem readOpen?_eq_none_iff {s : Text} : readOpen? s = none ↔ opensHere s = false := by
  rw [readOpen?, List.findSome?_eq_none_iff, opensHere, List.any_eq_false]
  simp only [Option.map_eq_none_iff, Text.startsWith, Bool.not_eq_true, Option.isSome_eq_false_iff, Option.isNone_iff_eq_none]

theorem eq_of_readOpen? {s b : Text} {kind : ListKind} (h : readOpen? s = some (kind, b)) :
    s = openTag (environmentName kind) ++ b := by
  obtain ⟨kind', -, hkind⟩ := List.exists_of_findSome?_eq_some h
  obtain ⟨b', hafter, heq⟩ := Option.map_eq_some_iff.1 hkind
  cases heq
  exact Text.after?_eq_some.1 hafter

theorem cutLastOpen?_eq_none_iff {s : Text} : cutLastOpen? s = none ↔ openCount s = 0 := by
  induction s with
  | nil => simp [cutLastOpen?, openCount]
  | cons c s ih =>
    rw [cutLastOpen?, openCount]
    split
    · next a kind b hs =>
      have : openCount s ≠ 0 := fun h0 => by simp [ih.2 h0] at hs
      simp [this]
    · next hs =>
      rw [ih.1 hs, Option.map_eq_none_iff, readOpen?_eq_none_iff]
      cases opensHere (c :: s) <;> simp

/-- Behind the last opening tag there is none. -/
theorem eq_of_cutLastOpen? {s a b : Text} {kind : ListKind} (h : cutLastOpen? s = some (a, kind, b)) :
    s = a ++ (openTag (environmentName kind) ++ b) ∧ openCount b = 0 := by
  induction s generalizing a with
  | nil => simp [cutLastOpen?] at h
  | cons c s ih =>
    rw [cutLastOpen?] at h
    split at h
    · next a' kind' b' hs =>
      cases h
      obtain ⟨rfl, hb⟩ := ih hs
      exact ⟨rfl, hb⟩
    · next hs =>
      obtain ⟨⟨kind', b'⟩, hread, heq⟩ := Option.map_eq_some_iff.1 h
      cases heq
      have hs := cutLastOpen?_eq_none_iff.1 hs
      have hread := eq_of_readOpen? hread
      obtain ⟨w, hw, hbackslash, -⟩ := openTag_eq_cons kind
      refine ⟨hread, ?_⟩
      rw [hw, List.cons_append] at hread
      rwa [(List.cons.inj hread).2, openCount_append_of_not_mem hbackslash] at hs

/-- A search for the list to lay out: the text in front of the limit, where opening tags are looked
for, and the text behind it. -/
structure Search where
  before : Text
  behind : Text

namespace Search

def text (p : Search) : Text := p.before ++ p.behind

/-- The search with the limit at the end of the text. -/
def start (s : Text) : Search := ⟨s, []⟩

/-- Looks at the last opening tag in front of the limit. If it is closed, the environment is laid out and
the limit is the end of the text again; otherwise the limit is in front of it. -/
def step? (p : Search) : Option Search :=
  (cutLastOpen? p.before).map fun (a, kind, b) =>
    match Text.cut? (closeTag (environmentName kind)) (b ++ p.behind) with
    | some (body, r) => start (a ++ (render kind body ++ r))
    | none => ⟨a, openTag (environmentName kind) ++ (b ++ p.behind)⟩

/-- One step of the search. -/
def Step (p q : Search) : Prop := p.step? = some q

/-- **What a step can do**: lay the last environment out, or move the limit in front of its tag. -/
theorem step_cases {p q : Search} (h : p.Step q) : ∃ a kind b,
    p.before = a ++ (openTag (environmentName kind) ++ b) ∧ openCount b = 0 ∧
      ((∃ body r, Text.cut? (closeTag (environmentName kind)) (b ++ p.behind) = some (body, r) ∧
          q = start (a ++ (render kind body ++ r))) ∨
        Text.cut? (closeTag (environmentName kind)) (b ++ p.behind) = none ∧
          q = ⟨a, openTag (environmentName kind) ++ (b ++ p.behind)⟩) := by
  obtain ⟨⟨a, kind, b⟩, hlast, hq⟩ := Option.map_eq_some_iff.1 h
  obtain ⟨hbefore, hb⟩ := eq_of_cutLastOpen? hlast
  refine ⟨a, kind, b, hbefore, hb, ?_⟩
  cases hcut : Text.cut? (closeTag (environmentName kind)) (b ++ p.behind) with
  | some found =>
    simp only [hcut] at hq
    exact .inl ⟨found.1, found.2, rfl, hq.symm⟩
  | none =>
    simp only [hcut] at hq
    exact .inr ⟨rfl, hq.symm⟩

/-- A step takes an opening tag away, or keeps the text and moves the limit. -/
theorem Step.measure {p q : Search} (h : p.Step q) :
    openCount q.text < openCount p.text ∨ q.text = p.text ∧ q.before.length < p.before.length := by
  obtain ⟨a, kind, b, hbefore, -, ⟨body, r, hcut, rfl⟩ | ⟨-, rfl⟩⟩ := step_cases h
  · left
    have hlt := openCount_layout_lt kind a body r
    have hcut := Text.eq_of_cut? hcut
    rw [List.append_assoc] at hcut
    rwa [text, text, start, hbefore, List.append_nil, List.append_assoc, List.append_assoc, hcut]
  · right
    have := Environment.openTag_length_pos (environmentName kind)
    simp only [text, hbefore, List.append_assoc, List.length_append, true_and]
    omega

/-- **The search ends**, whatever the text. -/
theorem Step.wellFounded : WellFounded fun q p : Search => p.Step q := by
  have hlex : ∀ p q : Search, p.Step q →
      Prod.Lex (· < ·) (· < ·) (openCount q.text, q.before.length) (openCount p.text, p.before.length) := by
    intro p q h
    rw [Prod.lex_def]
    rcases h.measure with hlt | ⟨heq, hlt⟩
    · exact .inl hlt
    · exact .inr ⟨congrArg openCount heq, hlt⟩
  exact Subrelation.wf (fun {q p} h => hlex p q h) (InvImage.wf _ (WellFounded.prod_lex Nat.lt_wfRel.wf Nat.lt_wfRel.wf))

/-- Nothing is closed that opens behind the limit, and no tag goes across it. -/
structure Sound (p : Search) : Prop where
  settled : renderLast? p.behind = none
  apart : ∀ c ∈ p.behind.head?, c = '\\'

theorem sound_start (s : Text) : (start s).Sound := ⟨rfl, by simp [start]⟩

/-- A step of the search is a round, or none and then nothing is closed behind the new limit either. -/
theorem Sound.step {p q : Search} (hp : p.Sound) (h : p.Step q) : q.Sound ∧ Rounds p.text q.text := by
  obtain ⟨a, kind, b, hbefore, hb, hq⟩ := step_cases h
  have htext : p.text = a ++ (openTag (environmentName kind) ++ (b ++ p.behind)) := by simp [text, hbefore]
  have hlast := renderLast?_openTag_append kind (renderLast?_append_eq_none hb hp.apart hp.settled)
  rcases hq with ⟨body, r, hcut, rfl⟩ | ⟨hcut, rfl⟩
  · refine ⟨sound_start _, .single ?_⟩
    rw [hcut] at hlast
    rw [htext, text, start, List.append_nil]
    exact renderLast?_append hlast a
  · rw [hcut] at hlast
    obtain ⟨w, hw, -⟩ := openTag_eq_cons kind
    refine ⟨⟨hlast, by simp [hw]⟩, ?_⟩
    rw [htext]
    exact .refl

/-- Where no step is left, no list is. -/
theorem Sound.renderLast?_eq_none {p : Search} (hp : p.Sound) (h : p.step? = none) : renderLast? p.text = none :=
  renderLast?_append_eq_none (cutLastOpen?_eq_none_iff.1 (Option.map_eq_none_iff.1 h)) hp.apart hp.settled

/-- The search comes to a place where no list is left, by rounds. -/
theorem Sound.exists_end {p : Search} (hp : p.Sound) : ∃ q, Relation.ReflTransGen Step p q ∧ q.step? = none ∧
    Rounds p.text q.text ∧ renderLast? q.text = none := by
  induction p using Step.wellFounded.induction with
  | _ p ih =>
    cases h : p.step? with
    | none => exact ⟨p, .refl, h, .refl, hp.renderLast?_eq_none h⟩
    | some q =>
      obtain ⟨hq, hround⟩ := hp.step h
      obtain ⟨last, hsteps, hstop, hrounds, hlast⟩ := ih q h hq
      exact ⟨last, .head h hsteps, hstop, hround.trans hrounds, hlast⟩

end Search

theorem renderLast?_renderAll (s : Text) : renderLast? (renderAll s) = none := by
  obtain ⟨last, -, -, hrounds, hlast⟩ := (Search.sound_start s).exists_end
  rw [Search.text, Search.start, List.append_nil] at hrounds
  rwa [renderAll_of_rounds hrounds hlast]

/-- **Every list environment that can be closed is laid out**: the search comes to its end with the text
that `renderAll` gives, in which no list is closed; a text with no such list is left as it is. -/
theorem renderAll_exhaustive (s : Text) :
    (∃ last, Relation.ReflTransGen Search.Step (Search.start s) last ∧ last.step? = none ∧ last.text = renderAll s) ∧
      (∀ kind, ¬Environment.IsClosedIn (environmentName kind) (renderAll s)) ∧ (renderAll s = s ↔ ¬HasList s) := by
  have hnone : ∀ {t}, ¬HasList t ↔ renderLast? t = none := by
    intro t
    rw [← isSome_renderLast?_iff, Bool.not_eq_true, Option.isSome_eq_false_iff, Option.isNone_iff_eq_none]
  have hsettled := hnone.2 (renderLast?_renderAll s)
  refine ⟨?_, fun kind hclosed => hsettled ⟨kind, hclosed⟩, fun heq => heq ▸ hsettled, fun h => ?_⟩
  · obtain ⟨last, hsteps, hstop, hrounds, hlast⟩ := (Search.sound_start s).exists_end
    rw [Search.text, Search.start, List.append_nil] at hrounds
    exact ⟨last, hsteps, hstop, (renderAll_of_rounds hrounds hlast).symm⟩
  · exact renderAll_of_rounds .refl (hnone.1 h)

end Coursebook.Command.ListBlock
