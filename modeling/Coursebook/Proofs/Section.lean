/-
Grouping into sections, told by the pieces of the sequence that is
grouped: a node that is kept as it is, or a heading with what follows it,
of which a section is made. The pieces are the sequence again when they are
joined (`IsGrouping.joined`), so nothing is lost, doubled or moved.

A section that is there already is no piece of another one: it is kept
(`IsGrouping.filter_isSection`). What comes out holds no heading that opens
a section, and such a sequence is left alone (`group_eq_self`).
-/
import Coursebook.Section

namespace Coursebook

theorem Node.countAll_append (ns ms : List Node) :
    Node.countAll (ns ++ ms) = Node.countAll ns + Node.countAll ms := by
  induction ns with
  | nil => simp [Node.countAll]
  | cons n ns ih =>
    rw [List.cons_append, Node.countAll, Node.countAll, ih]
    omega

namespace SectionOptions

/-! ## Pieces -/

/-- A piece of a sequence of nodes: one that is kept, or a heading with the nodes that follow it. -/
inductive Piece where
  | kept (n : Node)
  | made (heading : Node) (more : List Node)

namespace Piece

/-- The nodes of a piece. -/
def source : Piece → List Node
  | kept n => [n]
  | made heading more => heading :: more

/-- What grouping puts in the place of a piece. -/
def node : Piece → Node
  | kept n => n
  | made heading more => .section_ (.ofHeading heading.plainText) (heading :: more)

def isMade : Piece → Bool
  | kept _ => false
  | made _ _ => true

/-- The nodes that are kept. -/
def keptNodes : Piece → List Node
  | kept n => [n]
  | made _ _ => []

end Piece

/-- How the pieces of a grouped sequence are cut: nothing that is kept opens a section, every section
that is made starts with a heading that does, and behind that heading stands neither another one nor a
section. -/
structure IsGrouping (o : SectionOptions) (ns : List Node) (ps : List Piece) : Prop where
  joined : ps.flatMap Piece.source = ns
  kept : ∀ n, .kept n ∈ ps → o.opens n = false
  opened : ∀ heading more, .made heading more ∈ ps → o.opens heading = true
  flat : ∀ heading more, .made heading more ∈ ps → ∀ n ∈ more, o.opens n = false ∧ n.isSection = false

variable {o : SectionOptions}

theorem opens_section (o : SectionOptions) (c : Category) (cs : List Node) : o.opens (.section_ c cs) = false := rfl

/-- A node that opens a section is a heading, so it is no section itself. -/
theorem isSection_of_opens {n : Node} (h : o.opens n = true) : n.isSection = false := by
  cases n with
  | section_ c cs => simp [opens_section] at h
  | _ => rfl

theorem ends_eq_false_iff {n : Node} : o.ends n = false ↔ o.opens n = false ∧ n.isSection = false := by
  simp [ends]

namespace IsGrouping

variable {ns : List Node} {ps : List Piece}

theorem nil (o : SectionOptions) : IsGrouping o [] [] := ⟨rfl, by simp, by simp, by simp⟩

theorem consKept {n : Node} (h : IsGrouping o ns ps) (hn : o.opens n = false) :
    IsGrouping o (n :: ns) (.kept n :: ps) where
  joined := by simp [Piece.source, h.joined]
  kept m hm := by
    rcases List.mem_cons.1 hm with hm | hm
    · obtain rfl := Piece.kept.inj hm
      exact hn
    · exact h.kept m hm
  opened heading more hm := h.opened heading more (by simpa using hm)
  flat heading more hm := h.flat heading more (by simpa using hm)

theorem consMade {heading : Node} {more : List Node} (h : IsGrouping o ns ps) (hh : o.opens heading = true)
    (hm : ∀ n ∈ more, o.opens n = false ∧ n.isSection = false) :
    IsGrouping o (heading :: more ++ ns) (.made heading more :: ps) where
  joined := by simp [Piece.source, h.joined]
  kept n hn := h.kept n (by simpa using hn)
  opened heading' more' hp := by
    rcases List.mem_cons.1 hp with hp | hp
    · obtain ⟨rfl, rfl⟩ := Piece.made.inj hp
      exact hh
    · exact h.opened heading' more' hp
  flat heading' more' hp := by
    rcases List.mem_cons.1 hp with hp | hp
    · obtain ⟨rfl, rfl⟩ := Piece.made.inj hp
      exact hm
    · exact h.flat heading' more' hp

theorem tail {p : Piece} (h : IsGrouping o ns (p :: ps)) : IsGrouping o (ps.flatMap Piece.source) ps where
  joined := rfl
  kept n hn := h.kept n (List.mem_cons_of_mem p hn)
  opened heading more hp := h.opened heading more (List.mem_cons_of_mem p hp)
  flat heading more hp := h.flat heading more (List.mem_cons_of_mem p hp)

/-- The sections among the nodes are kept, each as it is and in the same order. -/
theorem filter_isSection (h : IsGrouping o ns ps) :
    (ps.flatMap Piece.keptNodes).filter Node.isSection = ns.filter Node.isSection := by
  induction ps generalizing ns with
  | nil => simp [← h.joined]
  | cons p ps ih =>
    have hsource : p.keptNodes.filter Node.isSection = p.source.filter Node.isSection := by
      cases p with
      | kept n => rfl
      | made heading more =>
        have hnone : ∀ n ∈ heading :: more, ¬n.isSection = true := by
          intro n hn
          rcases List.mem_cons.1 hn with rfl | hn
          · simp [isSection_of_opens (h.opened n more List.mem_cons_self)]
          · simp [(h.flat heading more List.mem_cons_self n hn).2]
        rw [Piece.source, List.filter_eq_nil_iff.2 hnone]
        rfl
    rw [← h.joined, List.flatMap_cons, List.flatMap_cons, List.filter_append, List.filter_append, hsource, ih h.tail]

/-- A section adds one node: itself. -/
theorem countAll (h : IsGrouping o ns ps) :
    Node.countAll (ps.map Piece.node) = Node.countAll ns + ps.countP Piece.isMade := by
  induction ps generalizing ns with
  | nil => simp [← h.joined, Node.countAll]
  | cons p ps ih =>
    rw [← h.joined, List.flatMap_cons, Node.countAll_append, List.map_cons, Node.countAll, ih h.tail, List.countP_cons]
    cases p with
    | kept n =>
      simp only [Piece.node, Piece.source, Piece.isMade, Node.countAll, Bool.false_eq_true, if_false]
      omega
    | made heading more =>
      simp only [Piece.node, Piece.source, Piece.isMade, Node.count, if_true]
      omega

/-- Nothing that comes out opens a section. -/
theorem opens_node (h : IsGrouping o ns ps) : ∀ n ∈ ps.map Piece.node, o.opens n = false := by
  intro n hn
  obtain ⟨p, hp, rfl⟩ := List.mem_map.1 hn
  cases p with
  | kept n => exact h.kept n hp
  | made heading more => exact opens_section o _ _

end IsGrouping

/-! ## Grouping -/

/-- Grouping cuts a sequence into pieces and puts one node in the place of each. -/
theorem group_pieces (o : SectionOptions) (ns : List Node) :
    ∃ ps, IsGrouping o ns ps ∧ o.group ns = ps.map Piece.node := by
  fun_induction group o ns with
  | case1 => exact ⟨[], .nil o, rfl⟩
  | case2 n ns hn ih =>
    obtain ⟨ps, hps, hgroup⟩ := ih
    have hmore : ∀ m ∈ ns.takeWhile (!o.ends ·), o.opens m = false ∧ m.isSection = false := by
      intro m hm
      have := List.all_eq_true.1 List.all_takeWhile m hm
      exact ends_eq_false_iff.1 (by simpa using this)
    have := hps.consMade hn hmore
    rw [List.cons_append, List.takeWhile_append_dropWhile] at this
    exact ⟨_, this, by rw [hgroup]; rfl⟩
  | case3 n ns hn ih =>
    obtain ⟨ps, hps, hgroup⟩ := ih
    exact ⟨_, hps.consKept (by simpa using hn), by rw [hgroup]; rfl⟩

/-- A sequence in which nothing opens a section is left alone. -/
theorem group_eq_self {ns : List Node} (h : ∀ n ∈ ns, o.opens n = false) : o.group ns = ns := by
  induction ns with
  | nil => rw [group]
  | cons n ns ih =>
    obtain ⟨hn, hns⟩ := List.forall_mem_cons.1 h
    rw [group, if_neg (by simp [hn]), ih hns]

/-- **Grouping loses, doubles and moves nothing**, makes flat sections, and is done after one pass. -/
theorem sectionize_grouping (o : SectionOptions) (h : o.enabled = true) (ns : List Node) :
    (∃ ps, IsGrouping o ns ps ∧ o.sectionize ns = ps.map Piece.node ∧
      (ps.flatMap Piece.keptNodes).filter Node.isSection = ns.filter Node.isSection ∧
      Node.countAll (o.sectionize ns) = Node.countAll ns + ps.countP Piece.isMade) ∧
    (∀ n ∈ o.sectionize ns, o.opens n = false) ∧
    o.sectionize (o.sectionize ns) = o.sectionize ns := by
  have hs : ∀ ms, o.sectionize ms = o.group ms := fun ms => if_pos h
  obtain ⟨ps, hps, hgroup⟩ := group_pieces o ns
  simp only [hs, hgroup]
  exact ⟨⟨ps, hps, rfl, hps.filter_isSection, hps.countAll⟩, hps.opens_node, group_eq_self hps.opens_node⟩

/-- A heading that opens a section, one that does not, and a section that ends what was opened. -/
def mixed : List Node :=
  [.rule, .plainHeading 2 "Exemple".toList, .plainHeading 4 "a".toList, .section_ .alert [.plainHeading 2 "b".toList],
    .plainParagraph "c".toList, .plainHeading 3 "d".toList]

theorem sectionize_mixed : ({} : SectionOptions).enabled = true ∧
    (∃ ps, IsGrouping {} mixed ps ∧ sectionize {} mixed = ps.map Piece.node ∧
      (ps.flatMap Piece.keptNodes).filter Node.isSection = mixed.filter Node.isSection ∧
      Node.countAll (sectionize {} mixed) = Node.countAll mixed + ps.countP Piece.isMade) ∧
    (∀ n ∈ sectionize {} mixed, opens {} n = false) ∧
    sectionize {} (sectionize {} mixed) = sectionize {} mixed :=
  ⟨rfl, sectionize_grouping {} rfl mixed⟩

end SectionOptions

end Coursebook
