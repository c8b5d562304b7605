/-
What statistics say. They describe the nodes of a tree in the order of the
document, at any depth (`Node.withinAll`), each counted once: that is an
invariant of the walk, whose state is described by the nodes passed so far
(`Writer.stats_node`).

Only the list of categories is more than a count. It has each category where
it first occurs, with the number of its sections (`tally`).
-/
import Coursebook.Proofs.Render.Writer
import Coursebook.Proofs.Text.Words
import Mathlib.Algebra.GroupWithZero.Nat
import Mathlib.Algebra.Order.Group.Nat
import Mathlib.Data.List.Basic
import Mathlib.Data.List.Induction

namespace Coursebook

/-! ## Nodes at any depth -/

namespace Node

mutual

/-- A node and all nodes in it, in the order of the document. -/
def within : Node → List Node
  | heading level cs => heading level cs :: withinAll cs
  | paragraph cs => paragraph cs :: withinAll cs
  | section_ c cs => section_ c cs :: withinAll cs
  | emphasis style cs => emphasis style cs :: withinAll cs
  | link url cs => link url cs :: withinAll cs
  | blockQuote cs => blockQuote cs :: withinAll cs
  | list kind items => list kind items :: withinItems items
  | n => [n]

def withinAll : List Node → List Node
  | [] => []
  | n :: ns => within n ++ withinAll ns

def withinItems : List (List Node) → List Node
  | [] => []
  | i :: is => withinAll i ++ withinItems is

end

theorem withinAll_append (ns ms : List Node) : withinAll (ns ++ ms) = withinAll ns ++ withinAll ms := by
  induction ns with
  | nil => rfl
  | cons n ns ih => rw [List.cons_append, withinAll, withinAll, ih, List.append_assoc]

mutual

/-- These are the nodes that a tree is said to have. -/
theorem length_within : ∀ n : Node, n.within.length = n.count
  | heading _ cs | paragraph cs | section_ _ cs | emphasis _ cs | link _ cs | blockQuote cs => by
    rw [within, List.length_cons, length_withinAll cs, count, Nat.add_comm]
  | list _ items => by rw [within, List.length_cons, length_withinItems items, count, Nat.add_comm]
  | math _ _ | image _ | lineBreak | code _ | codeBlock _ _ | rule | text _ | raw _ => rfl

theorem length_withinAll : ∀ ns : List Node, (withinAll ns).length = countAll ns
  | [] => rfl
  | n :: ns => by rw [withinAll, List.length_append, length_within n, length_withinAll ns, countAll]

theorem length_withinItems : ∀ items : List (List Node), (withinItems items).length = countItems items
  | [] => rfl
  | i :: items => by rw [withinItems, List.length_append, length_withinAll i, length_withinItems items, countItems]

end

def isParagraph : Node → Bool
  | paragraph _ => true
  | _ => false

def isMath (kind : MathKind) : Node → Bool
  | math k _ => k = kind
  | _ => false

def itemCount : Node → Nat
  | list _ items => items.length
  | _ => 0

def wordCount : Node → Nat
  | text t => (Text.piecesAt Text.isBlank t).length
  | _ => 0

end Node

/-! ## Categories in the order of their first occurrence -/

theorem eraseDups_concat {α : Type} [DecidableEq α] (as : List α) (a : α) :
    (as ++ [a]).eraseDups = if a ∈ as then as.eraseDups else as.eraseDups ++ [a] := by
  rw [List.eraseDups_append]
  split
  · next h => simp [List.removeAll, h]
  · next h => simp [List.removeAll, h, List.eraseDups_cons]

theorem nodup_eraseDups {α : Type} [DecidableEq α] (as : List α) : as.eraseDups.Nodup := by
  induction as using List.reverseRecOn with
  | nil => exact List.nodup_nil
  | append_singleton as a ih =>
    rw [eraseDups_concat]
    split
    · exact ih
    · next h =>
      have hnew : a ∉ as.eraseDups := fun ha => h (List.mem_eraseDups.1 ha)
      exact List.nodup_append.2 ⟨ih, by simp, by simpa using fun b hb => ne_of_mem_of_not_mem hb hnew⟩

namespace Stats

/-- Each category where it first occurs, with how often it occurs. -/
def tally (cs : List Category) : List (Category × Nat) := cs.eraseDups.map fun c => (c, cs.count c)

theorem countCategory_of_not_mem {c : Category} {cs : List (Category × Nat)} (h : c ∉ cs.map (·.1)) :
    countCategory c cs = cs ++ [(c, 1)] := by
  induction cs with
  | nil => rfl
  | cons p cs ih =>
    rw [List.map_cons, List.mem_cons, not_or] at h
    rw [countCategory, if_neg (Ne.symm h.1), ih h.2, List.cons_append]

theorem countCategory_map {c : Category} (f : Category → Nat) {cs : List Category} (hn : cs.Nodup) (h : c ∈ cs) :
    countCategory c (cs.map fun d => (d, f d)) = cs.map fun d => (d, f d + if d = c then 1 else 0) := by
  induction cs with
  | nil => cases h
  | cons d cs ih =>
    obtain ⟨hd, hn⟩ := List.nodup_cons.1 hn
    rw [List.map_cons, countCategory, List.map_cons]
    by_cases hdc : d = c
    · subst hdc
      rw [if_pos rfl, if_pos rfl]
      congr 1
      refine List.map_congr_left fun e he => ?_
      rw [if_neg (ne_of_mem_of_not_mem he hd), Nat.add_zero]
    · rw [if_neg hdc, if_neg hdc, ih hn ((List.mem_cons.1 h).resolve_left (Ne.symm hdc)), Nat.add_zero]

/-- One more section. -/
theorem countCategory_tally (c : Category) (cs : List Category) : countCategory c (tally cs) = tally (cs ++ [c]) := by
  have hcount : ∀ d, (cs ++ [c]).count d = cs.count d + if d = c then 1 else 0 := fun d => by
    simp only [List.count_append, List.count_singleton, beq_iff_eq, @eq_comm _ c d]
  simp only [tally, hcount, eraseDups_concat]
  split
  · next h => exact countCategory_map _ (nodup_eraseDups cs) (List.mem_eraseDups.2 h)
  · next h =>
    have hnew : c ∉ (cs.eraseDups.map fun d => (d, cs.count d)).map (·.1) := by simpa using h
    rw [countCategory_of_not_mem hnew, List.map_append]
    congr 1
    · refine List.map_congr_left fun d hd => ?_
      rw [if_neg (ne_of_mem_of_not_mem (List.mem_eraseDups.1 hd) h), Nat.add_zero]
    · simp [List.count_eq_zero_of_not_mem h]

theorem sum_countCategory (c : Category) (cs : List (Category × Nat)) :
    ((countCategory c cs).map (·.2)).sum = (cs.map (·.2)).sum + 1 := by
  induction cs with
  | nil => rfl
  | cons p cs ih =>
    rw [countCategory]
    split
    · simp only [List.map_cons, List.sum_cons]
      omega
    · simp only [List.map_cons, List.sum_cons, ih]
      omega

theorem sum_tally (cs : List Category) : ((tally cs).map (·.2)).sum = cs.length := by
  induction cs using List.reverseRecOn with
  | nil => rfl
  | append_singleton cs c ih => rw [← countCategory_tally, sum_countCategory, ih, List.length_append, List.length_singleton]

theorem lookup_tally (c : Category) (cs : List Category) : ((tally cs).lookup c).getD 0 = cs.count c := by
  by_cases h : c ∈ cs
  · rw [tally, List.lookup_graph _ (List.mem_eraseDups.2 h), Option.getD_some]
  · have hnone : (tally cs).lookup c = none := by
      rw [List.lookup_eq_none_iff]
      simpa [tally] using fun d hd (he : c = d) => h (he ▸ hd)
    rw [hnone, List.count_eq_zero_of_not_mem h, Option.getD_none]

/-! ## Counting -/

/-- The statistics of nodes in a row, each taken for itself. -/
def ofNodes (ns : List Node) : Stats where
  sections := ns.countP Node.isSection
  categories := tally (ns.filterMap Node.category?)
  headings := ns.countP Node.isHeading
  paragraphs := ns.countP Node.isParagraph
  items := (ns.map Node.itemCount).sum
  images := ns.countP Node.isImage
  inlineMath := ns.countP (Node.isMath .inline)
  displayMath := ns.countP (Node.isMath .display)
  words := (ns.map Node.wordCount).sum

/-- What one more node adds. -/
theorem ofNodes_concat (ns : List Node) (n : Node) :
    ofNodes (ns ++ [n]) =
      { sections := (ofNodes ns).sections + if n.isSection then 1 else 0
        categories := n.category?.elim (ofNodes ns).categories (countCategory · (ofNodes ns).categories)
        headings := (ofNodes ns).headings + if n.isHeading then 1 else 0
        paragraphs := (ofNodes ns).paragraphs + if n.isParagraph then 1 else 0
        items := (ofNodes ns).items + n.itemCount
        images := (ofNodes ns).images + if n.isImage then 1 else 0
        inlineMath := (ofNodes ns).inlineMath + if n.isMath .inline then 1 else 0
        displayMath := (ofNodes ns).displayMath + if n.isMath .display then 1 else 0
        words := (ofNodes ns).words + n.wordCount } := by
  have hcategories : tally ((ns ++ [n]).filterMap Node.category?) =
      n.category?.elim (ofNodes ns).categories (countCategory · (ofNodes ns).categories) := by
    rw [List.filterMap_append, ofNodes, List.filterMap_cons]
    cases n.category? with
    | none => exact congrArg tally (List.append_nil _)
    | some c => exact (countCategory_tally c _).symm
  rw [ofNodes, hcategories]
  simp [ofNodes]

theorem countNode_ofNodes (ns : List Node) (n : Node) : (ofNodes ns).countNode n = ofNodes (ns ++ [n]) := by
  rw [ofNodes_concat]
  cases n with
  | math kind s => cases kind <;> rfl
  | text t =>
    rw [countNode, Text.words_eq]
    rfl
  | _ => rfl

/-- A list of categories for sections in the order of the document. -/
structure ListsCategories (s : Stats) (cs : List Category) : Prop where
  order : s.categories.map (·.1) = cs.eraseDups
  once : (s.categories.map (·.1)).Nodup
  counts : ∀ p ∈ s.categories, p.2 = cs.count p.1
  total : (s.categories.map (·.2)).sum = s.sections

theorem listsCategories_ofNodes (ns : List Node) : (ofNodes ns).ListsCategories (ns.filterMap Node.category?) := by
  have horder : (ofNodes ns).categories.map (·.1) = (ns.filterMap Node.category?).eraseDups := by
    simp [ofNodes, tally, Function.comp_def]
  refine ⟨horder, horder ▸ nodup_eraseDups _, fun p hp => ?_, (sum_tally _).trans List.length_filterMap_eq_countP⟩
  obtain ⟨c, -, rfl⟩ := List.mem_map.1 hp
  rfl

/-- Counters that are the sums of those of two parts. -/
structure IsSum (whole s t : Stats) : Prop where
  sections : whole.sections = s.sections + t.sections
  sectionsOf : ∀ c, whole.sectionsOf c = s.sectionsOf c + t.sectionsOf c
  headings : whole.headings = s.headings + t.headings
  paragraphs : whole.paragraphs = s.paragraphs + t.paragraphs
  items : whole.items = s.items + t.items
  images : whole.images = s.images + t.images
  inlineMath : whole.inlineMath = s.inlineMath + t.inlineMath
  displayMath : whole.displayMath = s.displayMath + t.displayMath
  words : whole.words = s.words + t.words

theorem sectionsOf_ofNodes (ns : List Node) (c : Category) :
    (ofNodes ns).sectionsOf c = (ns.filterMap Node.category?).count c := lookup_tally c _

theorem isSum_ofNodes (ns ms : List Node) : IsSum (ofNodes (ns ++ ms)) (ofNodes ns) (ofNodes ms) := by
  constructor
  case sectionsOf =>
    intro c
    simp only [sectionsOf_ofNodes, List.filterMap_append, List.count_append]
  all_goals simp [ofNodes]

end Stats

/-! ## The walk -/

namespace Writer

open Html

variable {o : RenderOptions}

theorem stats_note {w : Writer} {passed : List Node} (h : w.stats = .ofNodes passed) (n : Node) (s : Text) :
    ((w.note (o.withStats true) n).put s).stats = .ofNodes (passed ++ [n]) := by
  rw [← Stats.countNode_ofNodes, ← h]
  rfl

/-- A node that is not counted may have been passed. -/
theorem stats_pass {w : Writer} {passed : List Node} (h : w.stats = .ofNodes passed) {n : Node}
    (hn : (Stats.ofNodes passed).countNode n = .ofNodes passed) : w.stats = .ofNodes (passed ++ [n]) := by
  rw [h, ← Stats.countNode_ofNodes, hn]

mutual

/-- **A node is counted with all that is in it**, behind the nodes passed before. -/
theorem stats_node : ∀ (n : Node) {w : Writer} {passed : List Node}, w.stats = .ofNodes passed →
    (node (o.withStats true) n w).stats = .ofNodes (passed ++ n.within)
  | .section_ _ cs, _, _, h | .heading _ cs, _, _, h | .paragraph cs, _, _, h => by
    rw [node, Node.within, List.append_cons]
    exact stats_nodes cs (stats_note h _ _)
  | .list _ is, _, _, h => by
    rw [node, Node.within, List.append_cons]
    exact stats_items is (stats_note h _ _)
  | .emphasis _ cs, _, _, h | .link _ cs, _, _, h | .blockQuote cs, _, _, h => by
    rw [node, Node.within, List.append_cons]
    exact stats_nodes cs (stats_pass h rfl)
  | .math .inline _, _, _, h | .math .display _, _, _, h | .image _, _, _, h | .text _, _, _, h => stats_note h _ _
  | .lineBreak, _, _, h | .code _, _, _, h | .codeBlock _ _, _, _, h | .rule, _, _, h | .raw _, _, _, h =>
    stats_pass h rfl

theorem stats_nodes : ∀ (ns : List Node) {w : Writer} {passed : List Node}, w.stats = .ofNodes passed →
    (nodes (o.withStats true) ns w).stats = .ofNodes (passed ++ Node.withinAll ns)
  | [], _, _, h => by rwa [nodes, Node.withinAll, List.append_nil]
  | n :: ns, _, _, h => by
    rw [nodes, Node.withinAll, ← List.append_assoc]
    exact stats_nodes ns (stats_node n h)

theorem stats_items : ∀ (is : List (List Node)) {w : Writer} {passed : List Node}, w.stats = .ofNodes passed →
    (items (o.withStats true) is w).stats = .ofNodes (passed ++ Node.withinItems is)
  | [], _, _, h => by rwa [items, Node.withinItems, List.append_nil]
  | i :: is, w, _, h => by
    have hitem : (nodes (o.withStats true) i (w.put (opening "li".toList []))).dropLineEnd.stats = _ :=
      stats_dropLineEnd.trans (stats_nodes i h)
    rw [items, Node.withinItems, ← List.append_assoc]
    exact stats_items is hitem

end

end Writer

namespace RenderOptions

variable (o : RenderOptions)

theorem stats_render (ns : List Node) : ((o.withStats true).render ns).2 = .ofNodes (Node.withinAll ns) :=
  have hempty : ({} : Writer).stats = .ofNodes [] := rfl
  Writer.stats_nodes ns hempty

/-- **Statistics describe the tree and never change the output.** The HTML is that of the document whether they
are kept or not. If they are, the counters are those of all nodes at any depth, each category is listed once,
where it first occurs, with the number of its sections, and for two sequences of nodes in a row every
counter is the sum of theirs. -/
theorem render_stats (ns ms : List Node) :
    (∀ keep, ((o.withStats keep).render ns).1 = Html.ofDocument o ns) ∧
    ((o.withStats true).render ns).2 = .ofNodes (Node.withinAll ns) ∧
    ((o.withStats true).render ns).2.ListsCategories ((Node.withinAll ns).filterMap Node.category?) ∧
    ((o.withStats true).render (ns ++ ms)).2.IsSum ((o.withStats true).render ns).2 ((o.withStats true).render ms).2 := by
  refine ⟨fun keep => o.html_render keep ns, o.stats_render ns, ?_, ?_⟩
  · rw [stats_render]
    exact Stats.listsCategories_ofNodes _
  · simp only [stats_render, Node.withinAll_append]
    exact Stats.isSum_ofNodes _ _

/-- A category is listed where it first occurs, also if more of its sections stand inside others. -/
example : ((RenderOptions.withStats {} true).render [.section_ .theorem_ [], .section_ .exercise
    [.list .ordered [[.section_ .summary []], [.section_ .theorem_ []]]]]).2.categories =
    [(.theorem_, 2), (.exercise, 1), (.summary, 1)] := by decide

end RenderOptions

end Coursebook
