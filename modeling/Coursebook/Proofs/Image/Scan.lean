/-
The images written in a text, and which of them are kept.

How an image is written is said without the readers (`Written`): a command,
groups without braces in them, options in brackets. At the head of a text
the readers read exactly that. Of the matches of both notations the scan
keeps those that start behind the last one kept, and every match that it
leaves out overlaps a kept one (`scanned_scan`).
-/
import Coursebook.Image.Notation
import Coursebook.Proofs.Text.Match

namespace Coursebook.ImageSpec

open Text (Match InOrder findAll)

/-! ## How images are written -/

def pathCommands : List Text := ["\\figure".toList, "\\image".toList]

def optionsCommand : Text := "\\includegraphics".toList

/-- A text that can stand between braces. -/
def Plain (s : Text) : Prop := ∀ c ∈ s, c ≠ '\x7b' ∧ c ≠ '\x7d'

def group (s : Text) : Text := '\x7b' :: (s ++ ['\x7d'])

/-- The ways to write an image. -/
inductive Written : Text → ImageSpec → Prop
  | path {command path : Text} : command ∈ pathCommands → path ≠ [] → Plain path →
      Written (command ++ group path) (ofOptions path none)
  | pathOptions {command path options : Text} : command ∈ pathCommands → path ≠ [] → Plain path → Plain options →
      Written (command ++ (group path ++ group options)) (ofOptions path (some options))
  | graphics {path : Text} : path ≠ [] → Plain path → Written (optionsCommand ++ group path) (ofOptions path none)
  | graphicsOptions {options path : Text} : (∀ c ∈ options, c ≠ ']') → path ≠ [] → Plain path →
      Written (optionsCommand ++ ('[' :: (options ++ ']' :: group path))) (ofOptions path (some options))

theorem Written.ne_nil {w : Text} {spec : ImageSpec} (h : Written w spec) : w ≠ [] := by
  cases h with
  | path | pathOptions | graphics | graphicsOptions => simp [group]

/-! ## The readers -/

theorem brackets?_eq_some {s options r : Text} :
    brackets? s = some (options, r) ↔ s = '[' :: (options ++ ']' :: r) ∧ ∀ c ∈ options, c ≠ ']' := by
  have hclosed : ∀ t : Text, t.dropWhile (· ≠ ']') = ']' :: r ∧ t.takeWhile (· ≠ ']') = options ↔
      t = options ++ ']' :: r ∧ ∀ c ∈ options, c ≠ ']' := fun t => by
    rw [Text.closed_iff (by simp)]
    simp only [decide_eq_true_eq]
  constructor
  · intro h
    rw [brackets?.eq_def] at h
    split at h
    · next t =>
      split at h
      · next r' hdrop =>
        obtain ⟨hoptions, rfl⟩ := Prod.mk.inj (Option.some.inj h)
        obtain ⟨ht, hno⟩ := (hclosed t).1 ⟨hdrop, hoptions⟩
        exact ⟨congrArg _ ht, hno⟩
      · cases h
    · cases h
  · rintro ⟨rfl, hno⟩
    obtain ⟨hdrop, htake⟩ := (hclosed _).2 ⟨rfl, hno⟩
    rw [brackets?, hdrop, htake]
    rfl

theorem plainGroup?_eq_some {s inner r : Text} :
    plainGroup? s = some (inner, r) ↔ s = group inner ++ r ∧ Plain inner := by
  have hclosed : ∀ t : Text, t.dropWhile (fun c => c ≠ '\x7b' ∧ c ≠ '\x7d') = '\x7d' :: r ∧
      t.takeWhile (fun c => c ≠ '\x7b' ∧ c ≠ '\x7d') = inner ↔ t = inner ++ '\x7d' :: r ∧ Plain inner := fun t => by
    rw [Text.closed_iff (by simp)]
    simp only [decide_eq_true_eq, Plain]
  have hgroup : group inner ++ r = '\x7b' :: (inner ++ '\x7d' :: r) := by simp [group]
  rw [hgroup]
  constructor
  · intro h
    rw [plainGroup?.eq_def] at h
    split at h
    · next t =>
      split at h
      · next r' hdrop =>
        obtain ⟨hinner, rfl⟩ := Prod.mk.inj (Option.some.inj h)
        obtain ⟨ht, hplain⟩ := (hclosed t).1 ⟨hdrop, hinner⟩
        exact ⟨congrArg _ ht, hplain⟩
      · cases h
    · cases h
  · rintro ⟨rfl, hplain⟩
    obtain ⟨hdrop, htake⟩ := (hclosed _).2 ⟨rfl, hplain⟩
    rw [plainGroup?, hdrop, htake]
    rfl

theorem pathFirstWord?_eq_some {s r : Text} :
    pathFirstWord? s = some r ↔ ∃ command ∈ pathCommands, s = command ++ r := by
  rw [pathFirstWord?]
  constructor
  · intro h
    split at h
    · next r' hfigure =>
      cases h
      exact ⟨_, List.mem_cons_self, Text.after?_eq_some.1 hfigure⟩
    · exact ⟨_, List.mem_cons_of_mem _ List.mem_cons_self, Text.after?_eq_some.1 h⟩
  · rintro ⟨command, hcommand, rfl⟩
    rcases List.mem_cons.1 hcommand with rfl | hcommand
    · rw [Text.after?_append]
    · rw [List.mem_singleton.1 hcommand, Text.after?_append]
      rfl

/-- What is read is an image as it is written. -/
def ReadsWritten (f : Text → Option (ImageSpec × Text)) : Prop :=
  ∀ {s spec r}, f s = some (spec, r) → ∃ w, s = w ++ r ∧ Written w spec

theorem pathFirst?_written : ReadsWritten pathFirst? := by
  intro s spec r h
  simp only [pathFirst?, Option.bind_eq_bind, Option.bind_eq_some_iff] at h
  obtain ⟨behind, hword, ⟨path, rest⟩, hpath, h⟩ := h
  obtain ⟨command, hcommand, rfl⟩ := pathFirstWord?_eq_some.1 hword
  obtain ⟨rfl, hplain⟩ := plainGroup?_eq_some.1 hpath
  split at h
  · cases h
  · next hne =>
    split at h
    · next options r' hoptions =>
      cases h
      obtain ⟨hrest, hinner⟩ := plainGroup?_eq_some.1 hoptions
      have hrest : rest = group options ++ r := hrest
      refine ⟨command ++ (group path ++ group options), ?_, .pathOptions hcommand hne hplain hinner⟩
      rw [hrest, List.append_assoc, List.append_assoc]
    · cases h
      exact ⟨command ++ group path, (List.append_assoc _ _ _).symm, .path hcommand hne hplain⟩

theorem optionsFirst?_written : ReadsWritten optionsFirst? := by
  intro s spec r h
  simp only [optionsFirst?, Option.bind_eq_bind, Option.bind_eq_some_iff] at h
  obtain ⟨behind, hword, ⟨path, rest⟩, hpath, h⟩ := h
  have hword : s = optionsCommand ++ behind := Text.after?_eq_some.1 hword
  split at h
  · cases h
  · next hne =>
    cases h
    cases hbrackets : brackets? behind with
    | some p =>
      obtain ⟨options, behind'⟩ := p
      rw [hbrackets] at hpath
      obtain ⟨rfl, hplain⟩ := plainGroup?_eq_some.1 hpath
      obtain ⟨rfl, hoptions⟩ := brackets?_eq_some.1 hbrackets
      exact ⟨_, by simp [hword], .graphicsOptions hoptions hne hplain⟩
    | none =>
      rw [hbrackets] at hpath
      obtain ⟨rfl, hplain⟩ := plainGroup?_eq_some.1 hpath
      exact ⟨_, by rw [hword, List.append_assoc], .graphics hne hplain⟩

theorem pathFirst?_isSome {command path : Text} (hcommand : command ∈ pathCommands) (hne : path ≠ [])
    (hplain : Plain path) (t : Text) : (pathFirst? (command ++ (group path ++ t))).isSome = true := by
  have hword : pathFirstWord? (command ++ (group path ++ t)) = some (group path ++ t) :=
    pathFirstWord?_eq_some.2 ⟨command, hcommand, rfl⟩
  have hgroup : plainGroup? (group path ++ t) = some (path, t) := plainGroup?_eq_some.2 ⟨rfl, hplain⟩
  simp only [pathFirst?, Option.bind_eq_bind, hword, hgroup, Option.bind_some, hne, if_false]
  split <;> rfl

theorem optionsFirst?_isSome {path : Text} (hne : path ≠ []) (hplain : Plain path) {behind : Text} (options t : Text)
    (hbehind : brackets? behind = some (options, group path ++ t) ∨ brackets? behind = none ∧ behind = group path ++ t) :
    (optionsFirst? (optionsCommand ++ behind)).isSome = true := by
  have hword : Text.after? "\\includegraphics".toList (optionsCommand ++ behind) = some behind := Text.after?_append _ _
  have hgroup : plainGroup? (group path ++ t) = some (path, t) := plainGroup?_eq_some.2 ⟨rfl, hplain⟩
  rcases hbehind with hbrackets | ⟨hbrackets, rfl⟩
  · simp only [optionsFirst?, Option.bind_eq_bind, hword, hgroup, hbrackets, Option.bind_some, hne, if_false]
    rfl
  · simp only [optionsFirst?, Option.bind_eq_bind, hword, hgroup, hbrackets, Option.bind_some, hne, if_false]
    rfl

/-- Where an image is written something is read. -/
theorem Written.read {w : Text} {spec : ImageSpec} (h : Written w spec) (r : Text) :
    (pathFirst? (w ++ r)).isSome = true ∨ (optionsFirst? (w ++ r)).isSome = true := by
  cases h with
  | path hcommand hne hplain =>
    rw [List.append_assoc]
    exact .inl (pathFirst?_isSome hcommand hne hplain r)
  | pathOptions hcommand hne hplain _ =>
    rw [List.append_assoc, List.append_assoc]
    exact .inl (pathFirst?_isSome hcommand hne hplain _)
  | graphics hne hplain =>
    rw [List.append_assoc]
    exact .inr (optionsFirst?_isSome hne hplain [] r (.inr ⟨rfl, rfl⟩))
  | @graphicsOptions options path hoptions hne hplain =>
    have hsplit : '[' :: (options ++ ']' :: group path) ++ r = '[' :: (options ++ ']' :: (group path ++ r)) := by simp
    rw [List.append_assoc, hsplit]
    exact .inr (optionsFirst?_isSome hne hplain options r (.inl (brackets?_eq_some.2 ⟨rfl, hoptions⟩)))

/-! ## Searches -/

theorem ReadsWritten.reads {f : Text → Option (ImageSpec × Text)} (h : ReadsWritten f) : Text.Reads f := by
  intro c s spec r hread
  obtain ⟨w, hw, hwritten⟩ := h hread
  obtain ⟨d, w, rfl⟩ := List.exists_cons_of_ne_nil hwritten.ne_nil
  exact ⟨w, (List.cons.inj hw).2.symm⟩

theorem ReadsWritten.written {f : Text → Option (ImageSpec × Text)} (h : ReadsWritten f) {s : Text}
    {m : Match ImageSpec} (hm : m.Valid f s) : Written (m.source s) m.value := by
  obtain ⟨w, hw, hwritten⟩ := h hm.read
  rw [← Text.slice_append_drop s (Nat.le_of_lt hm.nonempty)] at hw
  rwa [Match.source, List.append_cancel_right hw]

/-- All matches of either notation. -/
def candidates (s : Text) : List (Match ImageSpec) := findAll pathFirst? s ++ findAll optionsFirst? s

/-- The candidates in the order in which they start. -/
def sorted (s : Text) : List (Match ImageSpec) :=
  List.merge (findAll pathFirst? s) (findAll optionsFirst? s) fun a b => a.start ≤ b.start

theorem candidate_written {s : Text} {m : Match ImageSpec} (hm : m ∈ candidates s) :
    (m.start < m.stop ∧ m.stop ≤ s.length) ∧ Written (m.source s) m.value := by
  have hvalid : ∀ {f : Text → Option (ImageSpec × Text)}, ReadsWritten f → m ∈ findAll f s →
      (m.start < m.stop ∧ m.stop ≤ s.length) ∧ Written (m.source s) m.value := fun {f} hf hm => by
    have hm := (Text.search_findAll hf.reads s).valid m hm
    exact ⟨⟨hm.nonempty, hm.bounded⟩, hf.written hm⟩
  rcases List.mem_append.1 hm with hm | hm
  · exact hvalid pathFirst?_written hm
  · exact hvalid optionsFirst?_written hm

/-- No written image is without a candidate where it starts. -/
theorem exists_candidate {a w r : Text} {spec : ImageSpec} (h : Written w spec) :
    ∃ m ∈ candidates (a ++ (w ++ r)), m.start ≤ a.length ∧ a.length < m.stop := by
  have hin : a.length < (a ++ (w ++ r)).length := by
    have := List.length_pos_iff.2 h.ne_nil
    simp only [List.length_append]
    omega
  have hsearch : ∀ {f : Text → Option (ImageSpec × Text)}, ReadsWritten f → (f (w ++ r)).isSome = true →
      ∃ m ∈ findAll f (a ++ (w ++ r)), m.start ≤ a.length ∧ a.length < m.stop := fun {f} hf hread =>
    (Text.search_findAll hf.reads _).exhaustive a.length (Nat.zero_le _) hin (by rwa [List.drop_left])
  rcases h.read r with hread | hread
  · obtain ⟨m, hm, hover⟩ := hsearch pathFirst?_written hread
    exact ⟨m, List.mem_append_left _ hm, hover⟩
  · obtain ⟨m, hm, hover⟩ := hsearch optionsFirst?_written hread
    exact ⟨m, List.mem_append_right _ hm, hover⟩

theorem pairwise_sorted (s : Text) : (sorted s).Pairwise fun m k => m.start ≤ k.start := by
  have hsearch : ∀ {f : Text → Option (ImageSpec × Text)}, ReadsWritten f →
      (findAll f s).Pairwise fun m k => decide (m.start ≤ k.start) = true := fun {f} hf => by
    have h := Text.search_findAll hf.reads s
    refine h.inOrder.imp_of_mem fun {m k} hm _ horder => ?_
    exact decide_eq_true (Nat.le_trans (Nat.le_of_lt (h.valid m hm).nonempty) horder)
  refine (List.pairwise_merge (fun a b c hab hbc => ?_) (fun a b => ?_) _ _ (hsearch pathFirst?_written)
    (hsearch optionsFirst?_written)).imp of_decide_eq_true
  · exact decide_eq_true (Nat.le_trans (of_decide_eq_true hab) (of_decide_eq_true hbc))
  · simpa using Nat.le_total a.start b.start

theorem mem_sorted {s : Text} {m : Match ImageSpec} : m ∈ sorted s ↔ m ∈ candidates s := by
  rw [sorted, List.mem_merge, candidates, List.mem_append]

/-! ## What is kept -/

variable {ms : List (Match ImageSpec)}

theorem dropOverlaps_sublist (stop : Nat) (ms : List (Match ImageSpec)) : (dropOverlaps stop ms).Sublist ms := by
  induction ms generalizing stop with
  | nil => exact .slnil
  | cons m ms ih =>
    rw [dropOverlaps]
    split
    · exact (ih stop).cons m
    · exact (ih m.stop).cons_cons m

theorem le_start_dropOverlaps (hvalid : ∀ m ∈ ms, m.start ≤ m.stop) {stop : Nat} :
    ∀ k ∈ dropOverlaps stop ms, stop ≤ k.start := by
  induction ms generalizing stop with
  | nil => simp [dropOverlaps]
  | cons m ms ih =>
    obtain ⟨hm, hvalid⟩ := List.forall_mem_cons.1 hvalid
    rw [dropOverlaps]
    split
    · exact ih hvalid
    · next hlater =>
      refine List.forall_mem_cons.2 ⟨Nat.not_lt.1 hlater, fun k hk => ?_⟩
      have := ih hvalid k hk
      omega

theorem inOrder_dropOverlaps (hvalid : ∀ m ∈ ms, m.start ≤ m.stop) (stop : Nat) : InOrder (dropOverlaps stop ms) := by
  induction ms generalizing stop with
  | nil => exact .nil
  | cons m ms ih =>
    have hvalid := (List.forall_mem_cons.1 hvalid).2
    rw [dropOverlaps]
    split
    · exact ih hvalid stop
    · exact List.pairwise_cons.2 ⟨le_start_dropOverlaps hvalid, ih hvalid m.stop⟩

/-- What is left out starts inside of what is kept, or in front of where the search began. -/
theorem overlaps_of_dropped (hsorted : ms.Pairwise fun m k => m.start ≤ k.start) {stop : Nat} :
    ∀ m ∈ ms, m ∉ dropOverlaps stop ms →
      m.start < stop ∨ ∃ k ∈ dropOverlaps stop ms, k.start ≤ m.start ∧ m.start < k.stop := by
  induction ms generalizing stop with
  | nil => simp
  | cons m ms ih =>
    obtain ⟨hfirst, hsorted⟩ := List.pairwise_cons.1 hsorted
    rw [dropOverlaps]
    split
    · next hearly => exact List.forall_mem_cons.2 ⟨fun _ => .inl hearly, ih hsorted⟩
    · refine List.forall_mem_cons.2 ⟨fun hout => absurd List.mem_cons_self hout, fun m' hm' hout => .inr ?_⟩
      rcases ih hsorted m' hm' (mt (List.mem_cons_of_mem m) hout) with hinside | ⟨k, hk, hover⟩
      · exact ⟨m, List.mem_cons_self, hfirst m' hm', hinside⟩
      · exact ⟨k, List.mem_cons_of_mem m hk, hover⟩

/-- What a scan of a text finds: of the candidates as many as can stand side by side, the earlier before the
later. -/
structure Scanned (s : Text) (ms : List (Match ImageSpec)) : Prop where
  bounds : ∀ m ∈ ms, m.start < m.stop ∧ m.stop ≤ s.length
  increasing : ms.Pairwise fun m k => m.start < k.start
  disjoint : InOrder ms
  written : ∀ m ∈ ms, m ∈ candidates s ∧ Written (m.source s) m.value
  maximal : ∀ m ∈ candidates s, m ∉ ms → ∃ k ∈ ms, k.start ≤ m.start ∧ m.start < k.stop
  -- no written image is overlooked by both searches
  exhaustive : ∀ {a w r spec}, s = a ++ (w ++ r) → Written w spec →
    ∃ m ∈ candidates s, m.start ≤ a.length ∧ a.length < m.stop

theorem scanned_scan (s : Text) : Scanned s (scan s) := by
  have hcandidate : ∀ m ∈ scan s, m ∈ candidates s := fun m hm =>
    mem_sorted.1 ((dropOverlaps_sublist 0 (sorted s)).mem hm)
  have hvalid : ∀ m ∈ sorted s, m.start ≤ m.stop := fun m hm =>
    Nat.le_of_lt (candidate_written (mem_sorted.1 hm)).1.1
  have horder : InOrder (scan s) := inOrder_dropOverlaps hvalid 0
  exact {
    bounds := fun m hm => (candidate_written (hcandidate m hm)).1
    increasing := horder.imp_of_mem fun {m k} hm _ hmk =>
      Nat.lt_of_lt_of_le (candidate_written (hcandidate m hm)).1.1 hmk
    disjoint := horder
    written := fun m hm => ⟨hcandidate m hm, (candidate_written (hcandidate m hm)).2⟩
    maximal := fun m hm hout =>
      (overlaps_of_dropped (pairwise_sorted s) m (mem_sorted.2 hm) hout).resolve_left (Nat.not_lt_zero _)
    exhaustive := by
      rintro a w r spec rfl h
      exact exists_candidate h }

end Coursebook.ImageSpec
