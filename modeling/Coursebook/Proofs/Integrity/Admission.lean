/-
What admission promises: an admitted text passes the check that it went
through and is admitted again as it is; a refused one was refused for what
repair cannot mend; and a laxer preset admits whatever a stricter one does
(`accept_boundary`).

The verdict hangs on three lists of findings alone (`rejects_check`). The
first of them, damage, is empty for every text that was repaired, and so is
the part of the second that can be corrected.
-/
import Coursebook.Proofs.Integrity.Sanitize

namespace Coursebook.Integrity

/-! ## Findings by kind -/

/-- Findings that are all of one kind. -/
def OfKind (k : FindingKind) (fs : List Finding) : Prop := ∀ f ∈ fs, f.kind = k

theorem ofKind_corruptionFindings (s : Text) : OfKind .corruption (corruptionFindings s) := by
  intro f hf
  obtain ⟨e, _, hf⟩ := List.mem_flatMap.1 hf
  obtain ⟨m, _, rfl⟩ := List.mem_map.1 hf
  rfl

theorem ofKind_identityFindings (s : Text) : OfKind .falseIdentity (identityFindings s) := by
  intro f hf
  obtain ⟨i, _, hf⟩ := List.mem_flatMap.1 hf
  obtain ⟨found, _, rfl⟩ := List.mem_map.1 hf
  rfl

theorem ofKind_repetitionFindings (n : Nat) (s : Text) : OfKind .repetition (repetitionFindings n s) := by
  intro f hf
  obtain ⟨t, _, rfl⟩ := List.mem_map.1 hf
  rfl

theorem ofKind_mathFindings (s : Text) : OfKind .malformedMath (mathFindings s) := by
  intro f hf
  obtain ⟨m, _, hf⟩ := List.mem_flatMap.1 hf
  obtain ⟨p, _, rfl⟩ := List.mem_map.1 hf
  rfl

theorem OfKind.optional {k : FindingKind} {fs : List Finding} (h : OfKind k fs) (asked : Bool) :
    OfKind k (if asked then fs else []) := by
  cases asked with
  | true => exact h
  | false => exact fun f hf => absurd hf List.not_mem_nil

theorem OfKind.countP {k : FindingKind} {fs : List Finding} (h : OfKind k fs) (p : FindingKind → Bool) :
    fs.countP (fun f => p f.kind) = if p k then fs.length else 0 := by
  have hp : fs.countP (fun f => p f.kind) = fs.countP fun _ => p k :=
    List.countP_congr fun f hf => by rw [h f hf]
  rw [hp]
  cases p k <;> simp

/-- How many findings of a check are of certain kinds. -/
theorem countP_findings (o : Options) (s : Text) (p : FindingKind → Bool) :
    (findings o s).countP (fun f => p f.kind) =
      (if p .corruption then (corruptionFindings s).length else 0)
        + (if p .falseIdentity then (identityFindings s).length else 0)
        + (if p .repetition then (if o.checkRepetition then repetitionFindings o.minSentence s else []).length else 0)
        + (if p .malformedMath then (if o.checkMath then mathFindings s else []).length else 0) := by
  rw [findings, List.countP_append, List.countP_append, List.countP_append,
    (ofKind_corruptionFindings s).countP, (ofKind_identityFindings s).countP,
    ((ofKind_repetitionFindings o.minSentence s).optional o.checkRepetition).countP,
    ((ofKind_mathFindings s).optional o.checkMath).countP]

theorem count_falseIdentity (o : Options) (s : Text) :
    Report.count .falseIdentity (findings o s) = (identityFindings s).length := by
  rw [Report.count, countP_findings o s fun k => k = .falseIdentity]
  simp

theorem count_malformedMath (o : Options) (s : Text) :
    Report.count .malformedMath (findings o s) = (if o.checkMath then mathFindings s else []).length := by
  rw [Report.count, countP_findings o s fun k => k = .malformedMath]
  simp

theorem fatalCount_check (o : Options) (s : Text) :
    (check o s).fatalCount = (corruptionFindings s).length + (identityFindings s).length := by
  rw [Report.fatalCount]
  exact (countP_findings o s FindingKind.isFatal).trans (by simp [FindingKind.isFatal])

/-! ## The verdict -/

/-- **A text is rejected** for damage, for a false identity, or for more malformed formulas than are
tolerated, if these are looked for. -/
theorem rejects_check (o : Options) (s : Text) : (check o s).rejects = true ↔
    0 < (check o s).fatalCount ∨ o.checkMath = true ∧ o.mathThreshold < (mathFindings s).length := by
  have hfatal : ((findings o s).any fun f => f.kind.isFatal) = true ↔ 0 < (check o s).fatalCount := by
    rw [List.any_eq_true, Report.fatalCount, List.countP_pos_iff]
    rfl
  have hcount : (o.mathThreshold < Report.count .malformedMath (findings o s)) ↔
      o.checkMath = true ∧ o.mathThreshold < (mathFindings s).length := by
    rw [count_malformedMath]
    cases o.checkMath <;> simp
  have hrejects : (check o s).rejects = ((findings o s).any (fun f => f.kind.isFatal) ||
      decide (o.mathThreshold < Report.count .malformedMath (findings o s))) := rfl
  rw [hrejects, Bool.or_eq_true, decide_eq_true_eq, hfatal, hcount]

/-- A check that tolerates more rejects less. -/
theorem rejects_check_mono {o p : Options} (hmath : p.checkMath = true → o.checkMath = true)
    (hthreshold : o.mathThreshold ≤ p.mathThreshold) {s : Text} (h : (check p s).rejects = true) :
    (check o s).rejects = true := by
  rw [rejects_check, fatalCount_check] at h ⊢
  exact h.imp_right fun ⟨hcheck, hcount⟩ => ⟨hmath hcheck, by omega⟩

/-! ## What repair leaves -/

theorem Clean.corruptionFindings {s : Text} (h : Clean s) : corruptionFindings s = [] := by
  rw [Integrity.corruptionFindings, List.flatMap_eq_nil_iff]
  intro e he
  rw [h.undamaged e he, List.map_nil]

theorem Clean.findAll_squareOfSum {s : Text} (h : Clean s) : Identity.squareOfSum.findAll s = [] :=
  List.eq_nil_of_length_eq_zero h.squares

/-- The false identities of a clean text are not those that can be corrected. -/
theorem Clean.of_mem_identityFindings {s : Text} (h : Clean s) {f : Finding} (hf : f ∈ identityFindings s) :
    ∃ i ∈ Identity.catalogue, i.name ≠ Identity.squareOfSum.name ∧ ∃ found ∈ i.findAll s,
      f.detail = i.name ++ ": ".toList ++ excerpt found := by
  obtain ⟨i, hi, hf⟩ := List.mem_flatMap.1 hf
  obtain ⟨found, hfound, rfl⟩ := List.mem_map.1 hf
  refine ⟨i, hi, fun hname => ?_, found, hfound, rfl⟩
  have : i = Identity.squareOfSum := by
    simp only [Identity.catalogue, List.mem_cons, List.not_mem_nil, or_false] at hi
    rcases hi with rfl | rfl | rfl | rfl
    · rfl
    all_goals exact absurd hname (by decide)
  rw [this, h.findAll_squareOfSum] at hfound
  exact absurd hfound List.not_mem_nil

/-! ## Admission -/

theorem accept_eq_ok_iff {o : Options} {s t : Text} :
    accept o s = .ok t ↔ (check o (sanitize s)).rejects = false ∧ t = sanitize s := by
  rw [accept]
  cases (check o (sanitize s)).rejects <;> simp [eq_comm]

theorem accept_eq_error_iff {o : Options} {s : Text} {r : Rejection} :
    accept o s = .error r ↔ (check o (sanitize s)).rejects = true ∧
      r = ⟨(findings o (sanitize s)).length, (check o (sanitize s)).fatalCount⟩ := by
  rw [accept]
  cases (check o (sanitize s)).rejects <;> simp [eq_comm, check, Report.ofFindings]

/-- Whatever a check lets pass, one that tolerates more lets pass as the same text. -/
theorem accept_mono {o p : Options} (hmath : p.checkMath = true → o.checkMath = true)
    (hthreshold : o.mathThreshold ≤ p.mathThreshold) {s t : Text} (h : accept o s = .ok t) : accept p s = .ok t := by
  rw [accept_eq_ok_iff] at h ⊢
  refine ⟨Bool.eq_false_iff.2 fun hp => ?_, h.2⟩
  exact absurd (rejects_check_mono hmath hthreshold hp) (by simp [h.1])

/-- An admitted text is not rejected, and is admitted again as it is. -/
theorem accept_stable {o : Options} {s t : Text} (h : accept o s = .ok t) :
    (check o t).rejects = false ∧ accept o t = .ok t := by
  obtain ⟨hpass, rfl⟩ := accept_eq_ok_iff.1 h
  have hself : sanitize (sanitize s) = sanitize s := sanitize_of_clean (clean_of_steps s)
  exact ⟨hpass, accept_eq_ok_iff.2 ⟨hself.symm ▸ hpass, hself.symm⟩⟩

/-- What a refusal rests on: false identities that cannot be corrected, all of which are counted as fatal, or
too many malformed formulas. No damage is left. -/
structure Refusal (o : Options) (s : Text) (r : Rejection) : Prop where
  undamaged : ∀ f ∈ findings o (sanitize s), f.kind ≠ .corruption
  uncorrectable : ∀ f ∈ findings o (sanitize s), f.kind = .falseIdentity →
    ∃ i ∈ Identity.catalogue, i.name ≠ Identity.squareOfSum.name ∧ ∃ found ∈ i.findAll (sanitize s),
      f.detail = i.name ++ ": ".toList ++ excerpt found
  findings_eq : r.findings = (findings o (sanitize s)).length
  fatal_eq : r.fatal = Report.count .falseIdentity (findings o (sanitize s))
  cause : 0 < r.fatal ∨ o.checkMath = true ∧
    o.mathThreshold < Report.count .malformedMath (findings o (sanitize s))

theorem refusal_of_accept {o : Options} {s : Text} {r : Rejection} (h : accept o s = .error r) : Refusal o s r := by
  obtain ⟨hrejects, rfl⟩ := accept_eq_error_iff.1 h
  have hclean := clean_of_steps s
  have hmem : ∀ f ∈ findings o (sanitize s), f ∈ identityFindings (sanitize s) ∨ f.kind = .repetition ∨
      f.kind = .malformedMath := by
    intro f hf
    rw [findings, hclean.corruptionFindings, List.nil_append, List.mem_append, List.mem_append] at hf
    rcases hf with (hf | hf) | hf
    · exact .inl hf
    · exact .inr (.inl ((ofKind_repetitionFindings o.minSentence _).optional o.checkRepetition f hf))
    · exact .inr (.inr ((ofKind_mathFindings _).optional o.checkMath f hf))
  constructor
  · intro f hf
    rcases hmem f hf with hf | hf | hf
    · simp [ofKind_identityFindings _ f hf]
    · simp [hf]
    · simp [hf]
  · intro f hf hkind
    rcases hmem f hf with hf | hf | hf
    · exact hclean.of_mem_identityFindings hf
    · simp [hf] at hkind
    · simp [hf] at hkind
  · rfl
  · rw [fatalCount_check, count_falseIdentity, hclean.corruptionFindings, List.length_nil, Nat.zero_add]
  · rcases (rejects_check o _).1 hrejects with hpos | ⟨hcheck, hcount⟩
    · exact .inl hpos
    · exact .inr ⟨hcheck, by rwa [count_malformedMath, if_pos hcheck]⟩

/-- **The boundary is sound and stable**, a refusal rests on what repair cannot mend, and the presets are
ordered by what they admit. -/
theorem accept_boundary (s : Text) :
    (∀ o t, accept o s = .ok t → (check o t).rejects = false ∧ accept o t = .ok t) ∧
      (∀ o r, accept o s = .error r → Refusal o s r) ∧
      (∀ t, accept (.ofPreset .strict) s = .ok t → accept (.ofPreset .standard) s = .ok t) ∧
      (∀ t, accept (.ofPreset .standard) s = .ok t → accept (.ofPreset .lenient) s = .ok t) :=
  ⟨fun _ _ => accept_stable, fun _ _ => refusal_of_accept, fun _ => accept_mono (fun _ => rfl) (by decide),
    fun _ => accept_mono (fun _ => rfl) (by decide)⟩

end Coursebook.Integrity
