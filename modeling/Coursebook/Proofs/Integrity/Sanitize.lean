/-
What `sanitize` promises: its result is `Clean`, a text is left alone
exactly if it is clean, and so a second time changes nothing
(`clean_sanitize`).

Each step makes one part of `Clean` true, and the steps behind it keep it;
where a later step can undo an earlier one the order of the steps says so.
Normal form C is the exception: a character that is taken out may leave two
that belong together, which is why it stands behind the repairs again.
-/
import Coursebook.Proofs.Command.Balance
import Coursebook.Proofs.Integrity.Stable

namespace Coursebook.Integrity

open Text (Settled normalize)
open Identity (correctSquares falseSquares FalseAt)

/-- A text in which there is nothing to repair. -/
structure Clean (s : Text) : Prop where
  normal : normalize s = s
  undamaged : ∀ e ∈ Corruption.catalogue, e.findAll s = []
  squares : falseSquares s = 0
  balance : Command.braceBalance s ≤ 0

theorem undamaged_iff (s : Text) :
    (∀ e ∈ Corruption.catalogue, e.findAll s = []) ↔ ∀ e ∈ Corruption.catalogue, ¬e.Damaged none s := by
  have key : ∀ e ∈ Corruption.catalogue, e.findAll s = [] ↔ ¬e.Damaged none s := by
    intro e he
    obtain ⟨_, _, _, _, h⟩ := Corruption.shape_of_mem e he
    exact Corruption.findAll_eq_nil_iff h.isLocal s
  exact forall₂_congr key

/-! ## The repairs -/

theorem repair_eq_self {e : Corruption} {s : Text} (h : e.findAll s = []) : e.repair s = s := by
  rw [Corruption.repair, h]
  rfl

theorem repairAll_eq_self {s : Text} (h : ∀ e ∈ Corruption.catalogue, e.findAll s = []) : repairAll s = s := by
  rw [repairAll]
  generalize Corruption.catalogue = l at h
  induction l with
  | nil => rfl
  | cons e l ih =>
    rw [List.foldl_cons, repair_eq_self (h e List.mem_cons_self)]
    exact ih fun f hf => h f (List.mem_cons_of_mem _ hf)

theorem mem_rewrite {e : Corruption} {head : Text} {before : Option Char} {s : Text} {c : Char}
    (h : c ∈ e.rewrite head before s) : c ∈ s ∨ c ∈ head := by
  induction s generalizing before with
  | nil => exact .inl h
  | cons d s ih =>
    rw [Corruption.rewrite, List.mem_append] at h
    rcases h with h | h
    · split at h
      · exact .inr h
      · exact .inl (List.mem_singleton.1 h ▸ List.mem_cons_self)
    · exact (ih h).imp_left (List.mem_cons_of_mem d)

/-- What the repairs write is ASCII. -/
theorem forall_mem_repairAll {P : Char → Prop} (hP : ∀ c, c.toNat < 0x80 → P c) {s : Text} (h : ∀ c ∈ s, P c) :
    ∀ c ∈ repairAll s, P c := by
  have hshape := Corruption.shape_of_mem
  rw [repairAll]
  generalize Corruption.catalogue = l at hshape
  induction l generalizing s with
  | nil => exact h
  | cons e l ih =>
    rw [List.foldl_cons]
    refine ih (fun c hc => ?_) fun f hf => hshape f (List.mem_cons_of_mem _ hf)
    obtain ⟨_, _, _, head, he⟩ := hshape e List.mem_cons_self
    rw [Corruption.repair_eq_rewrite he.isLocal] at hc
    rcases mem_rewrite hc with hc | hc
    · exact h c hc
    · exact hP c (he.ascii c hc)

/-! ## Closing braces -/

theorem closeBraces_of_le {s : Text} (h : Command.braceBalance s ≤ 0) : closeBraces s = s := by
  rw [closeBraces]
  split
  · next n hn =>
    rw [hn, Int.ofNat_eq_natCast] at h
    omega
  · rfl

/-- Closing the braces puts spaces and closing braces behind a text, and leaves none open. -/
theorem closeBraces_eq (s : Text) : ∃ x : Text, closeBraces s = s ++ x ∧ (∀ c ∈ x, c = ' ' ∨ c = '\x7d') ∧
    Command.braceBalance (s ++ x) ≤ 0 := by
  rw [closeBraces]
  split
  · next n hn =>
    have hbalance : Command.braceBalance s = n + 1 := hn
    have hclose := Command.braceBalance_replicate (n + 1)
    by_cases hodd : (s.reverse.takeWhile (· = '\\')).length % 2 = 1
    · refine ⟨' ' :: List.replicate (n + 1) '\x7d', ?_, ?_, ?_⟩
      · simp [hodd]
      · intro c hc
        rcases List.mem_cons.1 hc with rfl | hc
        · exact .inl rfl
        · exact .inr (List.eq_of_mem_replicate hc)
      · rw [Command.braceBalance_append_cons ((Text.endsEscaped_iff_odd s).2 hodd), hbalance, hclose]
        omega
    · have hends := Bool.eq_false_iff.2 (mt (Text.endsEscaped_iff_odd s).1 hodd)
      refine ⟨List.replicate (n + 1) '\x7d', ?_, fun c hc => .inr (List.eq_of_mem_replicate hc), ?_⟩
      · simp [hodd]
      · rw [Command.braceBalance_append hends, hbalance, hclose]
        omega
  · next hno =>
    refine ⟨[], (List.append_nil s).symm, by simp, ?_⟩
    rw [List.append_nil]
    by_cases hb : Command.braceBalance s ≤ 0
    · exact hb
    · obtain ⟨n, hn⟩ := Int.eq_succ_of_zero_lt (Int.not_le.1 hb)
      exact absurd hn (hno n)

theorem normalize_append_closing {x : Text} (hx : ∀ c ∈ x, c = ' ' ∨ c = '\x7d') (s : Text) :
    normalize (s ++ x) = normalize s ++ x := by
  have hsolid : ∀ c ∈ x, Text.Solid c := by
    intro c hc
    rcases hx c hc with rfl | rfl
    · exact Text.Solid.of_lt (by decide)
    · exact Text.Solid.of_lt (by decide)
  rw [Text.normalize_append s fun c hc => (hsolid c (List.mem_of_mem_head? hc)).leads,
    Text.normalize_eq_self_of_solid hsolid]

/-! ## The whole -/

theorem clean_of_steps (s : Text) : Clean (sanitize s) := by
  have hASCII : ∀ c : Char, c.toNat < 0x80 → Settled c := fun c hc => Settled.of_lt (by omega)
  have hsettled : ∀ c ∈ correctSquares (repairAll (normalize s)), Settled c :=
    Identity.forall_mem_correctSquares hASCII
      (forall_mem_repairAll hASCII fun c hc => Text.settled_of_mem_normalize hc)
  have hsquares := Identity.not_falseAt_normalize hsettled (Identity.not_falseAt_correctSquares _)
  have hdamage : ∀ e ∈ Corruption.catalogue,
      ¬e.Damaged none (normalize (correctSquares (repairAll (normalize s)))) := by
    intro e he
    obtain ⟨_, _, _, _, h⟩ := Corruption.shape_of_mem e he
    exact h.keeps_normalize hsettled (h.keeps_correctSquares (not_damaged_repairAll (normalize s) e he))
  obtain ⟨x, hclose, hx, hbalance⟩ := closeBraces_eq (normalize (correctSquares (repairAll (normalize s))))
  rw [sanitize, hclose]
  refine ⟨?_, (undamaged_iff _).2 fun e he => ?_, ?_, hbalance⟩
  · rw [normalize_append_closing hx, Text.normalize_normalize]
  · obtain ⟨_, _, _, _, h⟩ := Corruption.shape_of_mem e he
    exact h.keeps_append hx (hdamage e he)
  · exact (Identity.falseSquares_eq_zero_iff _).2 (Identity.not_falseAt_append hx hsquares)

theorem sanitize_of_clean {s : Text} (h : Clean s) : sanitize s = s := by
  rw [sanitize, h.normal, repairAll_eq_self h.undamaged,
    Identity.correctSquares_eq_self ((Identity.falseSquares_eq_zero_iff s).1 h.squares), h.normal,
    closeBraces_of_le h.balance]

/-- **Sanitizing gives a clean text**, leaves alone exactly what is clean, and so changes nothing a second
time. -/
theorem clean_sanitize (s : Text) :
    Clean (sanitize s) ∧ (sanitize s = s ↔ Clean s) ∧ sanitize (sanitize s) = sanitize s := by
  have hclean := clean_of_steps s
  refine ⟨hclean, ⟨fun he => ?_, sanitize_of_clean⟩, sanitize_of_clean hclean⟩
  rwa [he] at hclean

end Coursebook.Integrity
