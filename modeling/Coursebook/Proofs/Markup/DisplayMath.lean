/-
Display math is lifted out of a paragraph. The children of a paragraph are
its formulas and, in front of, between and behind them, the longest runs of
other nodes (`inTurn_splitOnP`). Lifting keeps the formulas in their order
and makes a paragraph of every run that is not blank (`splitAround_eq`), so
nothing but blank runs is lost, and no run is joined to another one.

A paragraph without a formula is left alone, blank or not. That is where the
one empty paragraph comes from (`exists_empty_paragraph`).
-/
import Coursebook.Markup.Tree

namespace Coursebook.Markup

open List (splitOnPPrepend splitOnPPrepend_cons_pos splitOnPPrepend_cons_neg splitOnPPrepend_nil)

/-! ## Runs -/

section

variable {α : Type} {p : α → Bool}

/-- Runs with what stands between them, one behind each run but the last. -/
def inTurn (runs : List (List α)) (between : List α) : List α :=
  (List.zipWith (· ++ ·) runs (between.map (fun n => [n]) ++ [[]])).flatten

@[simp] theorem inTurn_nil (run : List α) : inTurn [run] [] = run := by simp [inTurn]

@[simp] theorem inTurn_cons (run : List α) (runs : List (List α)) (n : α) (between : List α) :
    inTurn (run :: runs) (n :: between) = run ++ n :: inTurn runs between := by simp [inTurn]

theorem inTurn_splitOnP (ns : List α) : inTurn (ns.splitOnP p) (ns.filter p) = ns := List.splitOnP_spec ns

theorem length_splitOnPPrepend (ns run : List α) :
    (splitOnPPrepend p ns run).length = (ns.filter p).length + 1 := by
  induction ns generalizing run with
  | nil => rfl
  | cons n ns ih =>
    cases hn : p n with
    | true => rw [splitOnPPrepend_cons_pos hn, List.length_cons, List.splitOnP, ih, List.filter_cons_of_pos hn, List.length_cons]
    | false => rw [splitOnPPrepend_cons_neg hn, ih, List.filter_cons_of_neg (by simp [hn])]

/-- Runs are longest: nothing that a list is cut at stands in one of them. -/
theorem forall_splitOnPPrepend {run : List α} (hrun : ∀ n ∈ run, p n = false) (ns : List α) :
    ∀ r ∈ splitOnPPrepend p ns run, ∀ n ∈ r, p n = false := by
  induction ns generalizing run with
  | nil => simpa [splitOnPPrepend_nil] using hrun
  | cons n ns ih =>
    cases hn : p n with
    | true =>
      rw [splitOnPPrepend_cons_pos hn]
      exact List.forall_mem_cons.2 ⟨by simpa using hrun, ih (by simp)⟩
    | false =>
      rw [splitOnPPrepend_cons_neg hn]
      exact ih (List.forall_mem_cons.2 ⟨hn, hrun⟩)

theorem exists_of_mem_inTurn {runs : List (List α)} {between : List α} {n : α} (h : n ∈ inTurn runs between) :
    n ∈ between ∨ ∃ r ∈ runs, n ∈ r := by
  rw [inTurn, List.mem_flatten] at h
  obtain ⟨piece, hpiece, hn⟩ := h
  rw [← List.map_uncurry_zip_eq_zipWith, List.mem_map] at hpiece
  obtain ⟨⟨r, last⟩, hpair, rfl⟩ := hpiece
  obtain ⟨hr, hlast⟩ := List.of_mem_zip hpair
  rcases List.mem_append.1 hn with hn | hn
  · exact .inr ⟨r, hr, hn⟩
  · refine .inl ?_
    rcases List.mem_append.1 hlast with hlast | hlast
    · obtain ⟨m, hm, rfl⟩ := List.mem_map.1 hlast
      exact List.mem_singleton.1 hn ▸ hm
    · rw [List.mem_singleton.1 hlast] at hn
      cases hn

/-- A function that leaves alone what stands between the runs may be taken into the runs. -/
theorem flatMap_inTurn {f : α → List α} {between : List α} (hf : ∀ n ∈ between, f n = [n])
    {runs : List (List α)} (hlen : runs.length = between.length + 1) :
    (inTurn runs between).flatMap f = inTurn (runs.map (·.flatMap f)) between := by
  induction between generalizing runs with
  | nil =>
    obtain ⟨run, rfl⟩ := List.length_eq_one_iff.1 hlen
    simp
  | cons n between ih =>
    obtain ⟨run, runs, rfl⟩ := List.exists_cons_of_length_eq_add_one hlen
    obtain ⟨hn, hf⟩ := List.forall_mem_cons.1 hf
    rw [inTurn_cons, List.flatMap_append, List.flatMap_cons, hn, ih hf (by simpa using hlen), List.map_cons,
      inTurn_cons, List.singleton_append]

end

/-! ## Lifting -/

/-- Lifting makes a paragraph of every run that is not blank, and keeps the formulas between them. -/
theorem splitAround_eq (run ns : List Node) : splitAround run ns =
    inTurn ((splitOnPPrepend isDisplayMath ns run).map paragraphOf) (ns.filter isDisplayMath) := by
  -- `run` is on both sides the run since the last formula, latest first.
  induction ns generalizing run with
  | nil => rw [splitAround, splitOnPPrepend_nil, List.map_singleton, List.filter_nil, inTurn_nil]
  | cons n ns ih =>
    cases hn : isDisplayMath n with
    | true =>
      rw [splitAround, if_pos hn, splitOnPPrepend_cons_pos hn, List.map_cons, List.filter_cons_of_pos hn, inTurn_cons, ih]
      rfl
    | false =>
      rw [splitAround, if_neg (by simp [hn]), splitOnPPrepend_cons_neg hn, List.filter_cons_of_neg (by simp [hn]), ih]

theorem liftDisplayMath_of_formula {cs : List Node} (h : cs.filter isDisplayMath ≠ []) :
    liftDisplayMath cs = inTurn ((cs.splitOnP isDisplayMath).map paragraphOf) (cs.filter isDisplayMath) := by
  obtain ⟨n, hn⟩ := List.exists_mem_of_ne_nil _ h
  rw [liftDisplayMath, if_pos (List.any_eq_true.2 ⟨n, List.mem_filter.1 hn⟩), splitAround_eq]
  rfl

theorem liftDisplayMath_of_no_formula {cs : List Node} (h : cs.filter isDisplayMath = []) :
    liftDisplayMath cs = [.paragraph cs] := by
  rw [List.filter_eq_nil_iff] at h
  exact if_neg (by simpa using h)

/-- What is kept of a run. -/
def keptRun (run : List Node) : List Node := if run.all isBlankNode then [] else run

/-- A block without the paragraph around it. -/
def unwrapped : Node → List Node
  | .paragraph cs => cs
  | n => [n]

theorem unwrapped_of_isDisplayMath {n : Node} (h : isDisplayMath n = true) : unwrapped n = [n] := by
  cases n <;> first | rfl | cases h

theorem flatMap_unwrapped_paragraphOf (run : List Node) : (paragraphOf run).flatMap unwrapped = keptRun run := by
  rw [paragraphOf, keptRun]
  split
  · rfl
  · exact List.append_nil run

theorem mem_paragraphOf {run : List Node} {b : Node} (h : b ∈ paragraphOf run) : b = .paragraph run ∧ run ≠ [] := by
  rw [paragraphOf] at h
  split at h
  · cases h
  · next hblank =>
    refine ⟨List.mem_singleton.1 h, ?_⟩
    rintro rfl
    exact hblank rfl

theorem isBlankNode_iff {n : Node} :
    isBlankNode n = true ↔ n = .lineBreak ∨ ∃ t, n = .text t ∧ Text.isBlankText t = true := by
  cases n <;> simp [isBlankNode]

/-- A run is dropped as a whole, and only if nothing but blank text and line breaks stand in it. -/
theorem keptRun_cases (run : List Node) : keptRun run = run ∨
    keptRun run = [] ∧ ∀ n ∈ run, n = .lineBreak ∨ ∃ t, n = .text t ∧ Text.isBlankText t = true := by
  rw [keptRun]
  split
  · next h => exact .inr ⟨rfl, fun n hn => isBlankNode_iff.1 (List.all_eq_true.1 h n hn)⟩
  · exact .inl rfl

/-- **Lifting display math loses only blank space.** The blocks are formulas, and paragraphs that hold no
formula and, unless the one that was there holds nothing, at least one node. Without the paragraphs around them
they are the children again, less those runs around formulas that are blank; without a formula the paragraph stays
as it is. -/
theorem liftDisplayMath_runs (cs : List Node) :
    let runs := cs.splitOnP isDisplayMath
    let formulas := cs.filter isDisplayMath
    (∀ b ∈ liftDisplayMath cs, isDisplayMath b = true ∨
      ∃ ps, b = .paragraph ps ∧ (∀ n ∈ ps, isDisplayMath n = false) ∧ (cs ≠ [] → ps ≠ [])) ∧
    (inTurn runs formulas = cs ∧ ∀ run ∈ runs, ∀ n ∈ run, isDisplayMath n = false) ∧
    (∀ run ∈ runs, keptRun run = run ∨
      keptRun run = [] ∧ ∀ n ∈ run, n = .lineBreak ∨ ∃ t, n = .text t ∧ Text.isBlankText t = true) ∧
    (formulas ≠ [] → liftDisplayMath cs = inTurn (runs.map paragraphOf) formulas ∧
      (liftDisplayMath cs).flatMap unwrapped = inTurn (runs.map keptRun) formulas) ∧
    (formulas = [] → liftDisplayMath cs = [.paragraph cs]) := by
  intro runs formulas
  have hformulas : ∀ n ∈ formulas, isDisplayMath n = true := fun n hn => (List.mem_filter.1 hn).2
  have hruns : ∀ run ∈ runs, ∀ n ∈ run, isDisplayMath n = false := forall_splitOnPPrepend (by simp) cs
  refine ⟨fun b hb => ?blocks, ⟨inTurn_splitOnP cs, hruns⟩, fun run _ => keptRun_cases run, fun h => ?some,
    liftDisplayMath_of_no_formula⟩
  case blocks =>
    by_cases h : formulas = []
    · rw [liftDisplayMath_of_no_formula h, List.mem_singleton] at hb
      rw [List.filter_eq_nil_iff] at h
      exact .inr ⟨cs, hb, by simpa using h, id⟩
    · rw [liftDisplayMath_of_formula h] at hb
      rcases exists_of_mem_inTurn hb with hb | ⟨piece, hpiece, hb⟩
      · exact .inl (hformulas b hb)
      · obtain ⟨run, hrun, rfl⟩ := List.mem_map.1 hpiece
        obtain ⟨rfl, hne⟩ := mem_paragraphOf hb
        exact .inr ⟨run, rfl, hruns run hrun, fun _ => hne⟩
  case some =>
    refine ⟨liftDisplayMath_of_formula h, ?_⟩
    have hlen : (runs.map paragraphOf).length = formulas.length + 1 := by
      rw [List.length_map]
      exact length_splitOnPPrepend cs []
    rw [liftDisplayMath_of_formula h, flatMap_inTurn (fun n hn => unwrapped_of_isDisplayMath (hformulas n hn)) hlen,
      List.map_map]
    exact congrArg (inTurn · formulas) (List.map_congr_left fun run _ => flatMap_unwrapped_paragraphOf run)

/-- Blank runs in front of and between two formulas, and one behind them that is not blank. -/
def liftedAround : List Node :=
  [.text [' '], .math .display ['a'], .lineBreak, .text ['\n'], .math .display ['b'], .text ['x'], .text [' ']]

theorem liftDisplayMath_runs_around : liftedAround.filter isDisplayMath ≠ [] ∧
    (liftDisplayMath liftedAround).flatMap unwrapped =
      inTurn ((liftedAround.splitOnP isDisplayMath).map keptRun) (liftedAround.filter isDisplayMath) ∧
    liftDisplayMath liftedAround = [.math .display ['a'], .math .display ['b'], .paragraph [.text ['x'], .text [' ']]] := by
  have h : liftedAround.filter isDisplayMath ≠ [] := by simp [liftedAround, isDisplayMath]
  exact ⟨h, ((liftDisplayMath_runs liftedAround).2.2.2.1 h).2, by rw [((liftDisplayMath_runs liftedAround).2.2.2.1 h).1]; rfl⟩

/-- A paragraph that holds nothing, as one does of two closing tags without an underline, is one of the blocks. -/
theorem exists_empty_paragraph :
    buildTree [.start .paragraph, .inlineHtml "</u>".toList, .inlineHtml "</u>".toList, .stop] = liftDisplayMath [] ∧
      ¬∀ b ∈ liftDisplayMath [], isDisplayMath b = true ∨
        ∃ ps, b = .paragraph ps ∧ ps ≠ [] ∧ ∀ n ∈ ps, isDisplayMath n = false := by
  refine ⟨rfl, fun h => ?_⟩
  rcases h (.paragraph []) List.mem_cons_self with h | ⟨ps, heq, hne, -⟩
  · cases h
  · cases heq
    exact hne rfl

end Coursebook.Markup
