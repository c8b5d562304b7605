/-
Image expansion loses nothing.

A text without images is one leaf, the empty text too. Any other text
becomes the leaves of the stretches around its images and the images in
turn (`expandText_eq`); with the source of each image in its place the text
is there again (`restore_expandText`).

In a tree each longest run of neighbouring leaves is joined and expanded,
and nothing else is changed (`Expands`). Then no two leaves are neighbours
(`Apart`), and there are as many more images as were counted. This is shown
for a sequence of which the nodes are done (`Done.level`) and carried up the
tree.
-/
import Coursebook.Image.Expand
import Coursebook.Proofs.Image.Scan
import Mathlib.Data.List.Chain
import Mathlib.Data.List.Forall2

namespace Coursebook.Node

open Text (Match gaps weave)
open ImageSpec (Scanned scan)

/-! ## A text -/

/-- The text of leaves, with texts in the place of the images between them. -/
def restore : List Node → List Text → Text
  | text t :: ns, ws => t ++ restore ns ws
  | image _ :: ns, w :: ws => w ++ restore ns ws
  | _, _ => []

theorem fragments_eq (s : Text) (cursor : Nat) (ms : List (Match ImageSpec)) :
    fragments s cursor ms =
      weave ((gaps s cursor ms).map leafUnlessEmpty) (ms.map fun m => [image m.value.resolve]) := by
  induction ms generalizing cursor with
  | nil => simp [fragments, gaps, weave]
  | cons m ms ih => rw [fragments, ih, gaps, List.map_cons, List.map_cons, weave, List.singleton_append]

theorem scan_nil : scan [] = [] := by
  have h := ImageSpec.scanned_scan []
  refine List.eq_nil_iff_forall_not_mem.2 fun m hm => ?_
  obtain ⟨hne, hbound⟩ := h.bounds m hm
  rw [List.length_nil] at hbound
  omega

/-- What a text that is not empty becomes. -/
def pieces (s : Text) : List Node :=
  weave ((gaps s 0 (scan s)).map leafUnlessEmpty) ((scan s).map fun m => [image m.value.resolve])

theorem expandText_eq (s : Text) : expandText s = if s = [] then [text []] else pieces s := by
  rw [expandText, pieces]
  split
  · next hscan =>
    cases s with
    | nil => rfl
    | cons c s => simp [hscan, gaps, weave, leafUnlessEmpty]
  · next hscan =>
    have hs : s ≠ [] := fun hs => hscan (hs ▸ scan_nil)
    rw [if_neg hs, fragments_eq]

theorem restore_leafUnlessEmpty (t : Text) (ns : List Node) (ws : List Text) :
    restore (leafUnlessEmpty t ++ ns) ws = t ++ restore ns ws := by
  cases t with
  | nil => rfl
  | cons c t => rfl

theorem restore_fragments (s : Text) (cursor : Nat) (ms : List (Match ImageSpec)) (f : Match ImageSpec → Text) :
    restore (fragments s cursor ms) (ms.map f) = weave (gaps s cursor ms) (ms.map f) := by
  induction ms generalizing cursor with
  | nil =>
    have h := restore_leafUnlessEmpty (s.drop cursor) [] []
    rw [List.append_nil] at h
    exact h.trans (by simp [restore, gaps, weave])
  | cons m ms ih => rw [fragments, restore_leafUnlessEmpty, List.map_cons, restore, ih, gaps, weave]

/-- With the sources of its images in their place a text is there again. -/
theorem restore_expandText (s : Text) : restore (expandText s) ((scan s).map (Match.source s)) = s := by
  have h := ImageSpec.scanned_scan s
  have hsources : weave (gaps s 0 (scan s)) ((scan s).map (Match.source s)) = s :=
    Text.weave_sources (fun m hm => Nat.le_of_lt (h.bounds m hm).1) h.disjoint fun m _ => Nat.zero_le _
  rw [expandText]
  split
  · next hscan =>
    rw [hscan]
    exact List.append_nil s
  · rw [restore_fragments, hsources]

/-! ## What is in a tree -/

def isText : Node → Bool
  | text _ => true
  | _ => false

/-- The sequences of nodes that a node owns. -/
def childLists : Node → List (List Node)
  | heading _ cs | paragraph cs | section_ _ cs | emphasis _ cs | link _ cs | blockQuote cs => [cs]
  | list _ items => items
  | _ => []

/-- A node without the nodes that it owns. -/
def shell : Node → Node
  | heading level _ => heading level []
  | paragraph _ => paragraph []
  | list kind _ => list kind []
  | section_ c _ => section_ c []
  | emphasis style _ => emphasis style []
  | link url _ => link url []
  | blockQuote _ => blockQuote []
  | n => n

mutual

/-- The number of images in a tree. -/
def images : Node → Nat
  | image _ => 1
  | heading _ cs | paragraph cs | section_ _ cs | emphasis _ cs | link _ cs | blockQuote cs => imagesAll cs
  | list _ items => imagesItems items
  | _ => 0

def imagesAll : List Node → Nat
  | [] => 0
  | n :: ns => images n + imagesAll ns

def imagesItems : List (List Node) → Nat
  | [] => 0
  | i :: is => imagesAll i + imagesItems is

end

@[simp] theorem images_text (t : Text) : (text t).images = 0 := rfl

@[simp] theorem images_image (i : Image) : (image i).images = 1 := rfl

/-- Whether a sequence begins with a leaf of text. -/
def startsWithText (ns : List Node) : Bool := ns.head?.any isText

/-- Expansion of the images in a sequence: a longest run of leaves is joined and expanded, and any other
node stays but for what it owns. -/
inductive Expands : List Node → List Node → Prop
  | nil : Expands [] []
  | leaves {ts : List Text} {ns ns' : List Node} : ts ≠ [] → startsWithText ns = false → Expands ns ns' →
      Expands (ts.map text ++ ns) (expandText ts.flatten ++ ns')
  | node {n n' : Node} {ns ns' : List Node} : n.isText = false → n'.shell = n.shell →
      List.Forall₂ Expands n.childLists n'.childLists → Expands ns ns' → Expands (n :: ns) (n' :: ns')

/-- Nowhere in a sequence or under its nodes do two leaves of text stand side by side. -/
inductive Apart : List Node → Prop
  | intro {ns : List Node} : ns.IsChain (fun n m => n.isText = false ∨ m.isText = false) →
      (∀ n ∈ ns, ∀ cs ∈ n.childLists, Apart cs) → Apart ns

/-- What expansion makes of a sequence, together with the number that it answers with. -/
structure Level (ns : List Node) (out : List Node × Nat) : Prop where
  expands : Expands ns out.1
  apart : Apart out.1
  counted : imagesAll out.1 = imagesAll ns + out.2

/-- A node of which only what it owns was expanded. -/
structure Filled (n n' : Node) : Prop where
  shell : n'.shell = n.shell
  children : List.Forall₂ Expands n.childLists n'.childLists

theorem isText_shell (n : Node) : n.shell.isText = n.isText := by
  cases n <;> rfl

theorem Filled.isText_eq {n n' : Node} (h : Filled n n') : n'.isText = n.isText := by
  rw [← isText_shell n', h.shell, isText_shell]

theorem Filled.eq_text {n : Node} {t : Text} (h : Filled n (text t)) : n = text t := by
  have hshell : text t = n.shell := h.shell
  cases n with
  | text u => exact hshell.symm
  | _ => cases hshell

theorem imagesAll_append (ns ms : List Node) : imagesAll (ns ++ ms) = imagesAll ns + imagesAll ms := by
  induction ns with
  | nil => simp [imagesAll]
  | cons n ns ih => rw [List.cons_append, imagesAll, imagesAll, ih, Nat.add_assoc]

theorem imagesAll_leaves (ts : List Text) : imagesAll (ts.map text) = 0 := by
  induction ts with
  | nil => rfl
  | cons t ts ih => rw [List.map_cons, imagesAll, ih, images_text]

/-! ## What a text becomes -/

/-- Leaves and images. -/
def IsPiece (n : Node) : Prop := (∃ t, n = text t) ∨ ∃ i, n = image i

theorem forall_fragments (s : Text) (cursor : Nat) (ms : List (Match ImageSpec)) :
    ∀ n ∈ fragments s cursor ms, IsPiece n := by
  have hleaf : ∀ t, ∀ n ∈ leafUnlessEmpty t, IsPiece n := fun t n hn => by
    cases t with
    | nil => cases hn
    | cons c t => exact .inl ⟨_, List.mem_singleton.1 hn⟩
  induction ms generalizing cursor with
  | nil => exact hleaf _
  | cons m ms ih =>
    intro n hn
    rw [fragments, List.mem_append, List.mem_cons] at hn
    rcases hn with hn | hn | hn
    · exact hleaf _ n hn
    · exact .inr ⟨_, hn⟩
    · exact ih m.stop n hn

theorem isChain_fragments (s : Text) (cursor : Nat) (ms : List (Match ImageSpec)) :
    (fragments s cursor ms).IsChain fun n m => n.isText = false ∨ m.isText = false := by
  have hleaf : ∀ t, (leafUnlessEmpty t).IsChain fun n m => n.isText = false ∨ m.isText = false := fun t => by
    cases t with
    | nil => exact .nil
    | cons c t => exact .singleton _
  induction ms generalizing cursor with
  | nil => exact hleaf _
  | cons m ms ih =>
    refine List.isChain_append.2 ⟨hleaf _, List.isChain_cons.2 ⟨fun n _ => .inl rfl, ih m.stop⟩, ?_⟩
    rintro n - _ ⟨⟩
    exact .inr rfl

theorem forall_expandText (s : Text) : ∀ n ∈ expandText s, IsPiece n := by
  rw [expandText]
  split
  · exact List.forall_mem_singleton.2 (.inl ⟨s, rfl⟩)
  · exact forall_fragments s 0 _

theorem isChain_expandText (s : Text) : (expandText s).IsChain fun n m => n.isText = false ∨ m.isText = false := by
  rw [expandText]
  split
  · exact .singleton _
  · exact isChain_fragments s 0 _

theorem IsPiece.childLists_eq {n : Node} (h : IsPiece n) : n.childLists = [] := by
  rcases h with ⟨t, rfl⟩ | ⟨i, rfl⟩
  · rfl
  · rfl

theorem imagesAll_pieces {ns : List Node} (h : ∀ n ∈ ns, IsPiece n) : imagesAll ns = (ns.filter isImage).length := by
  induction ns with
  | nil => rfl
  | cons n ns ih =>
    obtain ⟨hn, h⟩ := List.forall_mem_cons.1 h
    rw [imagesAll, ih h]
    rcases hn with ⟨t, rfl⟩ | ⟨i, rfl⟩
    · rw [images_text, Nat.zero_add, List.filter_cons_of_neg (by simp [isImage])]
    · rw [images_image, Nat.add_comm, List.filter_cons_of_pos rfl, List.length_cons]

/-! ## One sequence -/

/-- A sequence is taken apart into longest runs of leaves, and other nodes. -/
theorem runs_induct {P : List Node → Prop} (nil : P []) (node : ∀ {n ns}, n.isText = false → P ns → P (n :: ns))
    (leaves : ∀ {ts : List Text} {ns}, ts ≠ [] → startsWithText ns = false → P ns → P (ts.map text ++ ns))
    (ns : List Node) : P ns := by
  -- any leaves in front belong to the first run
  suffices h : ∀ ts : List Text, P (ts.map text ++ ns) from h []
  induction ns with
  | nil =>
    intro ts
    by_cases hts : ts = []
    · rwa [hts]
    · exact leaves hts rfl nil
  | cons n ns ih =>
    intro ts
    cases hn : n.isText with
    | true =>
      obtain ⟨t, rfl⟩ : ∃ t, n = text t := by
        cases n with
        | text t => exact ⟨t, rfl⟩
        | _ => cases hn
      have := ih (ts ++ [t])
      rwa [List.map_append, List.append_assoc] at this
    | false =>
      have hnode := node hn (ih [])
      by_cases hts : ts = []
      · rwa [hts]
      · exact leaves hts hn hnode

theorem joinLeaves_node {n : Node} (hn : n.isText = false) (ns : List Node) :
    joinLeaves (n :: ns) = n :: joinLeaves ns := by
  cases n with
  | text t => cases hn
  | _ => rfl

theorem expandLeaves_node {n : Node} (hn : n.isText = false) (ns : List Node) :
    expandLeaves (n :: ns) = (n :: (expandLeaves ns).1, (expandLeaves ns).2) := by
  cases n with
  | text t => cases hn
  | _ => rfl

/-- Joining the leaves of a sequence leaves its beginning what it is. -/
theorem startsWithText_joinLeaves (ns : List Node) : startsWithText (joinLeaves ns) = startsWithText ns := by
  cases ns with
  | nil => rfl
  | cons n ns =>
    cases n with
    | text t =>
      rw [joinLeaves]
      split <;> rfl
    | _ => rfl

theorem joinLeaves_leaf {ns : List Node} (hns : startsWithText ns = false) (t : Text) :
    joinLeaves (text t :: ns) = text t :: joinLeaves ns := by
  rw [joinLeaves]
  split
  · next u ms hjoin =>
    rw [← startsWithText_joinLeaves, hjoin] at hns
    cases hns
  · rfl

theorem joinLeaves_leaves {ns : List Node} (hns : startsWithText ns = false) (t : Text) (ts : List Text) :
    joinLeaves ((t :: ts).map text ++ ns) = text (t :: ts).flatten :: joinLeaves ns := by
  induction ts generalizing t with
  | nil => simpa using joinLeaves_leaf hns t
  | cons u ts ih =>
    have hjoin := ih u
    rw [List.map_cons, List.cons_append, joinLeaves, hjoin]
    simp

/-- What becomes of a sequence whose nodes are done. -/
def expandLevel (ns : List Node) : List Node × Nat := expandLeaves (joinLeaves ns)

theorem expandLevel_node {n : Node} (hn : n.isText = false) (ns : List Node) :
    expandLevel (n :: ns) = (n :: (expandLevel ns).1, (expandLevel ns).2) := by
  rw [expandLevel, joinLeaves_node hn, expandLeaves_node hn]
  rfl

theorem expandLevel_leaves {ts : List Text} (hts : ts ≠ []) {ns : List Node} (hns : startsWithText ns = false) :
    expandLevel (ts.map text ++ ns) = (expandText ts.flatten ++ (expandLevel ns).1,
      ((expandText ts.flatten).filter isImage).length + (expandLevel ns).2) := by
  obtain ⟨t, ts, rfl⟩ := List.exists_cons_of_ne_nil hts
  rw [expandLevel, joinLeaves_leaves hns]
  rfl

theorem startsWithText_expandLevel {ns : List Node} (h : startsWithText ns = false) :
    startsWithText (expandLevel ns).1 = false := by
  cases ns with
  | nil => rfl
  | cons n ns =>
    rw [expandLevel_node h]
    exact h

theorem exists_leaves {ts : List Text} {ns ms : List Node} (h : List.Forall₂ Filled ns (ts.map text ++ ms)) :
    ∃ ns', ns = ts.map text ++ ns' ∧ List.Forall₂ Filled ns' ms := by
  induction ts generalizing ns with
  | nil => exact ⟨ns, rfl, h⟩
  | cons t ts ih =>
    rw [List.map_cons, List.cons_append] at h
    obtain ⟨n, ns', hn, hns, rfl⟩ := List.forall₂_cons_right_iff.1 h
    obtain ⟨ns', rfl, hns'⟩ := ih hns
    exact ⟨ns', by rw [hn.eq_text]; rfl, hns'⟩

theorem expands_expandLevel {ns ms : List Node} (h : List.Forall₂ Filled ns ms) : Expands ns (expandLevel ms).1 := by
  induction ms using runs_induct generalizing ns with
  | nil =>
    rw [List.forall₂_nil_right_iff.1 h]
    exact .nil
  | node hm ih =>
    obtain ⟨n, ns, hn, hns, rfl⟩ := List.forall₂_cons_right_iff.1 h
    rw [expandLevel_node hm]
    exact .node (hn.isText_eq ▸ hm) hn.shell hn.children (ih hns)
  | leaves hts hms ih =>
    obtain ⟨ns, rfl, hns⟩ := exists_leaves h
    rw [expandLevel_leaves hts hms]
    refine .leaves hts ?_ (ih hns)
    cases hns with
    | nil => rfl
    | cons hn _ => exact hn.isText_eq.symm.trans hms

theorem apart_expandLevel {ms : List Node} (h : ∀ m ∈ ms, ∀ cs ∈ m.childLists, Apart cs) : Apart (expandLevel ms).1 := by
  have hmem : ∀ n ∈ (expandLevel ms).1, ∀ cs ∈ n.childLists, Apart cs := by
    induction ms using runs_induct with
    | nil => exact fun n hn => absurd hn List.not_mem_nil
    | node hm ih =>
      obtain ⟨hfirst, h⟩ := List.forall_mem_cons.1 h
      rw [expandLevel_node hm]
      exact List.forall_mem_cons.2 ⟨hfirst, ih h⟩
    | leaves hts hms ih =>
      rw [expandLevel_leaves hts hms]
      intro n hn
      rcases List.mem_append.1 hn with hn | hn
      · rw [(forall_expandText _ n hn).childLists_eq]
        exact fun cs hcs => absurd hcs List.not_mem_nil
      · exact ih (fun m hm => h m (List.mem_append_right _ hm)) n hn
  refine .intro ?_ hmem
  clear hmem h
  induction ms using runs_induct with
  | nil => exact .nil
  | node hm ih =>
    rw [expandLevel_node hm]
    exact List.isChain_cons.2 ⟨fun n _ => .inl hm, ih⟩
  | leaves hts hms ih =>
    rw [expandLevel_leaves hts hms]
    refine List.isChain_append.2 ⟨isChain_expandText _, ih, fun n _ m hm => .inr ?_⟩
    have hstart := startsWithText_expandLevel hms
    rw [startsWithText, Option.mem_def.1 hm] at hstart
    exact hstart

theorem imagesAll_expandLevel (ms : List Node) : imagesAll (expandLevel ms).1 = imagesAll ms + (expandLevel ms).2 := by
  induction ms using runs_induct with
  | nil => rfl
  | node hm ih =>
    rw [expandLevel_node hm, imagesAll, imagesAll, ih, Nat.add_assoc]
  | leaves hts hms ih =>
    rw [expandLevel_leaves hts hms, imagesAll_append, imagesAll_append, imagesAll_leaves, ih,
      imagesAll_pieces (forall_expandText _)]
    simp only
    omega

/-- A sequence of which the nodes are done, but not the leaves. -/
structure Done (ns : List Node) (out : List Node × Nat) : Prop where
  filled : List.Forall₂ Filled ns out.1
  apart : ∀ n ∈ out.1, ∀ cs ∈ n.childLists, Apart cs
  counted : imagesAll out.1 = imagesAll ns + out.2

theorem Done.level {ns : List Node} {out : List Node × Nat} (h : Done ns out) : Level ns (finishLevel out) where
  expands := expands_expandLevel h.filled
  apart := apart_expandLevel h.apart
  counted := by
    have hout : finishLevel out = ((expandLevel out.1).1, out.2 + (expandLevel out.1).2) := rfl
    rw [hout, imagesAll_expandLevel, h.counted, Nat.add_assoc]

/-! ## The tree -/

/-- Sequences that are done, with the number of new images. -/
structure Owned (lists : List (List Node)) (out : List (List Node) × Nat) : Prop where
  expands : List.Forall₂ Expands lists out.1
  apart : ∀ cs ∈ out.1, Apart cs
  counted : imagesItems out.1 = imagesItems lists + out.2

theorem Owned.none : Owned [] ([], 0) := ⟨.nil, by simp, rfl⟩

theorem Level.owned_cons {cs : List Node} {out : List Node × Nat} (h : Level cs out) {lists : List (List Node)}
    {outs : List (List Node) × Nat} (hs : Owned lists outs) : Owned (cs :: lists) (out.1 :: outs.1, out.2 + outs.2) where
  expands := .cons h.expands hs.expands
  apart := List.forall_mem_cons.2 ⟨h.apart, hs.apart⟩
  counted := by
    rw [imagesItems, imagesItems, h.counted, hs.counted]
    omega

theorem Level.owned {cs : List Node} {out : List Node × Nat} (h : Level cs out) : Owned [cs] ([out.1], out.2) :=
  h.owned_cons .none

/-- A node that is done: what it owns was expanded. -/
structure NodeDone (n : Node) (out : Node × Nat) : Prop where
  shell : out.1.shell = n.shell
  owned : Owned n.childLists (out.1.childLists, out.2)

theorem images_eq (n : Node) : n.images = n.shell.images + imagesItems n.childLists := by
  cases n <;> simp [images, shell, childLists, imagesAll, imagesItems]

theorem NodeDone.done_cons {n : Node} {out : Node × Nat} (h : NodeDone n out) {ns : List Node} {outs : List Node × Nat}
    (hs : Done ns outs) : Done (n :: ns) (out.1 :: outs.1, out.2 + outs.2) where
  filled := .cons ⟨h.shell, h.owned.expands⟩ hs.filled
  apart := List.forall_mem_cons.2 ⟨h.owned.apart, hs.apart⟩
  counted := by
    have hcounted := h.owned.counted
    simp only at hcounted
    rw [imagesAll, imagesAll, images_eq n, images_eq out.1, h.shell, hcounted, hs.counted]
    omega

mutual

theorem nodeDone_expandChildren : ∀ n : Node, NodeDone n (expandChildren n)
  | heading _ cs | paragraph cs | section_ _ cs | emphasis _ cs | link _ cs | blockQuote cs =>
    ⟨rfl, (done_expandEach cs).level.owned⟩
  | list _ items => ⟨rfl, owned_expandItems items⟩
  | math _ _ | image _ | lineBreak | code _ | codeBlock _ _ | rule | text _ | raw _ => ⟨rfl, .none⟩

theorem done_expandEach : ∀ ns : List Node, Done ns (expandEach ns)
  | [] => ⟨.nil, by simp [expandEach], rfl⟩
  | n :: ns => (nodeDone_expandChildren n).done_cons (done_expandEach ns)

theorem owned_expandItems : ∀ items : List (List Node), Owned items (expandItems items)
  | [] => .none
  | i :: is => (done_expandEach i).level.owned_cons (owned_expandItems is)

end

/-- **Image expansion loses nothing.** -/
theorem expansion_lossless (s : Text) (ns : List Node) :
    Scanned s (scan s) ∧ (expandText s = if s = [] then [text []] else pieces s) ∧
      restore (expandText s) ((scan s).map (Match.source s)) = s ∧ Level ns (expandAll ns) :=
  ⟨ImageSpec.scanned_scan s, expandText_eq s, restore_expandText s, (done_expandEach ns).level⟩

/-- The empty text has no stretch that is not empty, and yet it is a leaf. -/
theorem not_expandText_pieces : ¬∀ s, expandText s = pieces s := by
  intro h
  have hnil := h []
  rw [expandText_eq, if_pos rfl, pieces, scan_nil] at hnil
  cases hnil

end Coursebook.Node
