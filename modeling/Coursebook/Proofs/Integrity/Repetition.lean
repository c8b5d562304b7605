/-
Sentences that are repeated. A text is cut at the ends of its sentences
(`Pieces`), and a sentence is reported where it comes up for the second
time, and nowhere else (`repeated_cons`). So there is one finding for each
sentence that stands there twice or more, in the order of the second
occurrences, and no verdict hangs on it (`check_repetition`).

The two lists that the search keeps are told by what was read: one holds
what came up, the other what came up again (`Tracks`).
-/
import Coursebook.Proofs.Integrity.Admission
import Coursebook.Proofs.Text.Trim

namespace Coursebook.Integrity

open Text (isBlank trim trimStart leadingBlank)

/-! ## The ends of sentences -/

/-- The end of a sentence, in front of `r`: marks and all the white space behind them. Without white space it
is the end of the text. -/
structure SentenceEnd (marks gap r : Text) : Prop where
  marked : marks ≠ []
  isMark : ∀ c ∈ marks, endsSentence c = true
  isGap : ∀ c ∈ gap, isBlank c = true
  whole : ∀ c ∈ r.head?, isBlank c = false
  last : gap = [] → r = []

/-- A sentence ends at the head of a text. -/
def EndsAt (s : Text) : Prop := ∃ marks gap r, s = marks ++ (gap ++ r) ∧ SentenceEnd marks gap r

theorem endsSentence_of_isBlank {c : Char} (h : isBlank c = true) : endsSentence c = false := by
  have hne : ∀ d, isBlank d = false → c ≠ d := fun d hd hc => by
    rw [hc, hd] at h
    exact Bool.noConfusion h
  simp [endsSentence, hne '.' (by decide), hne '!' (by decide), hne '?' (by decide)]

namespace SentenceEnd

variable {marks gap r : Text}

/-- Marks are read up to their end. -/
theorem span_eq (h : SentenceEnd marks gap r) :
    Text.span endsSentence (marks ++ (gap ++ r)) = (marks, gap ++ r) := by
  have hhead : (gap ++ r).takeWhile endsSentence = [] ∧ (gap ++ r).dropWhile endsSentence = gap ++ r := by
    cases gap with
    | nil => simp [h.last rfl]
    | cons c gap => simp [endsSentence_of_isBlank (h.isGap c List.mem_cons_self)]
  rw [Text.span, List.takeWhile_append_of_pos h.isMark, List.dropWhile_append_of_pos h.isMark, hhead.1, hhead.2,
    List.append_nil]

/-- White space is read up to its end. -/
theorem trimStart_eq (h : SentenceEnd marks gap r) : trimStart (gap ++ r) = r := by
  rw [trimStart, List.dropWhile_append_of_pos h.isGap]
  cases r with
  | nil => rfl
  | cons c r => exact List.dropWhile_cons_of_neg (by simp [h.whole c rfl])

/-- Marks in front of white space, or at the end of the text, end a sentence. -/
theorem of_marks {rest : Text} (hne : marks ≠ []) (hmarks : ∀ c ∈ marks, endsSentence c = true)
    (hrest : ∀ c ∈ rest.head?, isBlank c = true) : SentenceEnd marks (leadingBlank rest) (trimStart rest) where
  marked := hne
  isMark := hmarks
  isGap := List.all_eq_true.1 (Text.isBlankText_leadingBlank rest)
  whole := Text.isBlank_of_head?_trimStart
  last hgap := by
    cases rest with
    | nil => rfl
    | cons c rest => simp [leadingBlank, hrest c rfl] at hgap

end SentenceEnd

theorem afterSentenceEnd?_eq_some {s r : Text} :
    afterSentenceEnd? s = some r ↔ ∃ marks gap, s = marks ++ (gap ++ r) ∧ SentenceEnd marks gap r := by
  constructor
  · intro h
    have hs := Text.span_append endsSentence s
    have hmarks : ∀ c ∈ (Text.span endsSentence s).1, endsSentence c = true := List.all_eq_true.1 List.all_takeWhile
    rw [afterSentenceEnd?] at h
    split at h
    · cases h
    · next marks hne hspan =>
      cases h
      rw [hspan] at hs hmarks
      have hend : SentenceEnd marks (leadingBlank []) (trimStart []) := .of_marks hne hmarks (by simp)
      exact ⟨marks, [], hs.symm, hend⟩
    · next marks c rest hne hspan =>
      split at h
      · next hc =>
        cases h
        rw [hspan] at hs hmarks
        have htrim : trimStart (c :: rest) = trimStart rest := List.dropWhile_cons_of_pos hc
        refine ⟨marks, leadingBlank (c :: rest), ?_, ?_⟩
        · rw [← htrim, Text.leadingBlank_append_trimStart, hs]
        · exact htrim ▸ .of_marks hne hmarks (by simpa using hc)
      · cases h
  · rintro ⟨marks, gap, rfl, h⟩
    obtain ⟨m, marks', hm⟩ := List.exists_cons_of_ne_nil h.marked
    have htrim := h.trimStart_eq
    rw [afterSentenceEnd?, h.span_eq]
    cases gap with
    | nil => simp [hm, h.last rfl]
    | cons c gap =>
      have hc := h.isGap c List.mem_cons_self
      have hrest : trimStart (gap ++ r) = r := by rwa [trimStart, List.cons_append, List.dropWhile_cons_of_pos hc] at htrim
      simp [hm, hc, hrest]

theorem afterSentenceEnd?_eq_none {s : Text} : afterSentenceEnd? s = none ↔ ¬EndsAt s := by
  rw [Option.eq_none_iff_forall_ne_some]
  simp only [ne_eq, afterSentenceEnd?_eq_some, EndsAt, not_exists]
  exact ⟨fun h marks gap r => h r marks gap, fun h r marks gap => h marks gap r⟩

/-! ## Pieces -/

/-- A text cut at the ends of its sentences, from left to right: no sentence ends inside a piece. -/
inductive Pieces : Text → List Text → Prop
  | last {s : Text} (h : ∀ t, t <:+ s → ¬EndsAt t) : Pieces s [s]
  | cut {p marks gap r : Text} {ps : List Text} (hend : SentenceEnd marks gap r)
      (h : ∀ t, t ≠ [] → t <:+ p → ¬EndsAt (t ++ (marks ++ (gap ++ r)))) (hr : Pieces r ps) :
      Pieces (p ++ (marks ++ (gap ++ r))) (p :: ps)

theorem not_endsAt_nil : ¬EndsAt [] := afterSentenceEnd?_eq_none.1 rfl

theorem pieces_sentencesFrom {fuel : Nat} (before s : Text) (hfuel : s.length < fuel)
    (h : ∀ t, t ≠ [] → t <:+ before.reverse → ¬EndsAt (t ++ s)) :
    Pieces (before.reverse ++ s) (sentencesFrom before fuel s) := by
  induction fuel generalizing before s with
  | zero => exact absurd hfuel (Nat.not_lt_zero _)
  | succ fuel ih =>
    cases s with
    | nil =>
      rw [sentencesFrom, List.append_nil]
      refine .last fun t ht => ?_
      cases t with
      | nil => exact not_endsAt_nil
      | cons c t => simpa using h (c :: t) (List.cons_ne_nil c t) ht
    | cons c s =>
      rw [List.length_cons] at hfuel
      rw [sentencesFrom]
      cases hend : afterSentenceEnd? (c :: s) with
      | some r =>
        obtain ⟨marks, gap, hs, hend⟩ := afterSentenceEnd?_eq_some.1 hend
        have hlength : r.length < fuel := by
          have hpos := List.length_pos_iff.2 hend.marked
          have hs := congrArg List.length hs
          simp only [List.length_cons, List.length_append] at hs
          omega
        rw [hs] at h ⊢
        exact .cut hend h (ih [] r hlength fun t ht hsuff => absurd (List.suffix_nil.1 hsuff) ht)
      | none =>
        have hnot := afterSentenceEnd?_eq_none.1 hend
        have hrest := ih (c :: before) s (by omega) fun t ht hsuff => ?_
        · simpa using hrest
        · rw [List.reverse_cons] at hsuff
          rcases List.suffix_concat_iff.1 hsuff with rfl | ⟨t, rfl, hbefore⟩
          · exact absurd rfl ht
          · rw [List.append_assoc, List.singleton_append]
            cases t with
            | nil => exact hnot
            | cons d t => exact h (d :: t) (List.cons_ne_nil d t) hbefore

/-! ## Second occurrences -/

/-- The place `i` of a list holds its second occurrence of `t`. -/
def IsSecond (ts : List Text) (i : Nat) (t : Text) : Prop := ts[i]? = some t ∧ (ts.take i).count t = 1

/-- What a search for repeated texts keeps of those that it has read. -/
structure Tracks (before seen reported : List Text) : Prop where
  seen : ∀ t, t ∈ seen ↔ 1 ≤ before.count t
  reported : ∀ t, t ∈ reported ↔ 2 ≤ before.count t

theorem tracks_nil : Tracks [] [] [] := ⟨by simp, by simp⟩

/-- What is kept behind one more text, however it is listed. -/
theorem Tracks.concat {before seen reported seen' reported' : List Text} {s : Text} (h : Tracks before seen reported)
    (hseen : ∀ t, t ∈ seen' ↔ t = s ∨ t ∈ seen) (hreported : ∀ t, t ∈ reported' ↔ t = s ∧ s ∈ seen ∨ t ∈ reported) :
    Tracks (before ++ [s]) seen' reported' := by
  have hcount : ∀ t, (before ++ [s]).count t = before.count t + if s = t then 1 else 0 := fun t => by
    rw [List.count_append, List.count_singleton]
    simp only [beq_iff_eq]
  refine ⟨fun t => ?_, fun t => ?_⟩
  · rw [hseen, h.seen, hcount]
    by_cases hst : s = t
    · simp [hst]
    · simp [hst, Ne.symm hst]
  · rw [hreported, h.seen, h.reported, hcount]
    by_cases hst : s = t
    · subst hst
      simp only [true_and, if_true]
      omega
    · simp [hst, Ne.symm hst]

/-- **One step**: a text is reported if it has come up once before. -/
theorem repeated_cons {before seen reported : List Text} (h : Tracks before seen reported) (s : Text) (more : List Text) :
    ∃ seen' reported', Tracks (before ++ [s]) seen' reported' ∧
      repeated seen reported (s :: more) =
        (if before.count s = 1 then [s] else []) ++ repeated seen' reported' more := by
  have h1 := h.seen s
  have h2 := h.reported s
  rw [repeated]
  by_cases hseen : s ∈ seen
  · rw [if_pos hseen]
    by_cases hreported : s ∈ reported
    · rw [if_pos hreported, if_neg (by have := h2.1 hreported; omega)]
      exact ⟨seen, reported, h.concat (by simp [hseen]) (by simp [hreported]), rfl⟩
    · rw [if_neg hreported, if_pos (by have := h1.1 hseen; have := mt h2.2 hreported; omega)]
      exact ⟨seen, s :: reported, h.concat (by simp [hseen]) (by simp [hseen]), rfl⟩
  · rw [if_neg hseen, if_neg (by have := mt h1.2 hseen; omega)]
    exact ⟨s :: seen, reported, h.concat (by simp) (by simp [hseen]), rfl⟩

theorem mem_repeated {before seen reported : List Text} (h : Tracks before seen reported) (ts : List Text) (t : Text) :
    t ∈ repeated seen reported ts ↔ before.count t ≤ 1 ∧ 2 ≤ (before ++ ts).count t := by
  induction ts generalizing before seen reported with
  | nil =>
    rw [repeated, List.append_nil, iff_false_left List.not_mem_nil]
    omega
  | cons s ts ih =>
    obtain ⟨seen', reported', hstep, heq⟩ := repeated_cons h s ts
    rw [heq, List.mem_append, ih hstep, List.append_assoc, List.singleton_append, List.count_append, List.count_append,
      List.count_singleton, List.count_cons]
    simp only [beq_iff_eq]
    by_cases hst : s = t
    · subst hst
      by_cases hone : before.count s = 1
      · simp [hone]
        omega
      · simp [hone]
        omega
    · have hhead : t ∉ (if before.count s = 1 then [s] else []) := by
        split
        · simpa using Ne.symm hst
        · simp
      simp [hhead, hst]

theorem nodup_repeated {before seen reported : List Text} (h : Tracks before seen reported) (ts : List Text) :
    (repeated seen reported ts).Nodup := by
  induction ts generalizing before seen reported with
  | nil => exact .nil
  | cons s ts ih =>
    obtain ⟨seen', reported', hstep, heq⟩ := repeated_cons h s ts
    rw [heq]
    split
    · next hone =>
      refine List.nodup_cons.2 ⟨fun hmem => ?_, ih hstep⟩
      have hcount := ((mem_repeated hstep ts s).1 hmem).1
      rw [List.count_append, hone, List.count_singleton_self] at hcount
      omega
    · exact ih hstep

/-- **A run**: of the texts that satisfy `p` those are reported that come up twice, in the order of their
second occurrences among all texts. -/
theorem exists_places {p : Text → Bool} {before seen reported : List Text} (h : Tracks (before.filter p) seen reported)
    (ts : List Text) : ∃ places : List Nat, places.Pairwise (· < ·) ∧ (∀ i ∈ places, before.length ≤ i) ∧
      List.Forall₂ (IsSecond (before ++ ts)) places (repeated seen reported (ts.filter p)) := by
  induction ts generalizing before seen reported with
  | nil => exact ⟨[], .nil, by simp, .nil⟩
  | cons s ts ih =>
    have happend : before ++ s :: ts = before ++ [s] ++ ts := by simp
    -- what follows `s` is placed behind it
    have hrest : ∀ {seen reported}, Tracks ((before ++ [s]).filter p) seen reported →
        ∃ places : List Nat, places.Pairwise (· < ·) ∧ (∀ i ∈ places, before.length < i) ∧
          List.Forall₂ (IsSecond (before ++ s :: ts)) places (repeated seen reported (ts.filter p)) := by
      intro seen reported htracks
      obtain ⟨places, hsorted, hbehind, hsecond⟩ := ih htracks
      rw [happend]
      exact ⟨places, hsorted, fun i hi => by simpa [Nat.succ_le_iff] using hbehind i hi, hsecond⟩
    by_cases hs : p s = true
    · obtain ⟨seen', reported', hstep, heq⟩ := repeated_cons h s (ts.filter p)
      rw [List.filter_cons_of_pos hs, heq, List.count_filter hs]
      have hstep : Tracks ((before ++ [s]).filter p) seen' reported' := by simpa [hs] using hstep
      obtain ⟨places, hsorted, hbehind, hsecond⟩ := hrest hstep
      split
      · next hone =>
        refine ⟨before.length :: places, List.pairwise_cons.2 ⟨hbehind, hsorted⟩, ?_, .cons ⟨by simp, by simpa⟩ hsecond⟩
        intro i hi
        rcases List.mem_cons.1 hi with rfl | hi
        · exact Nat.le_refl _
        · exact Nat.le_of_lt (hbehind i hi)
      · exact ⟨places, hsorted, fun i hi => Nat.le_of_lt (hbehind i hi), hsecond⟩
    · rw [List.filter_cons_of_neg hs]
      have hsame : Tracks ((before ++ [s]).filter p) seen reported := by simpa [hs] using h
      obtain ⟨places, hsorted, hbehind, hsecond⟩ := hrest hsame
      exact ⟨places, hsorted, fun i hi => Nat.le_of_lt (hbehind i hi), hsecond⟩

/-! ## Findings and verdict -/

/-- The findings of one kind are those of the search for it. -/
theorem filter_repetition (o : Options) (s : Text) : (findings o s).filter (fun f => f.kind = .repetition) =
    if o.checkRepetition then repetitionFindings o.minSentence s else [] := by
  have hall : ∀ {fs}, OfKind .repetition fs → fs.filter (fun f => f.kind = .repetition) = fs := fun h =>
    List.filter_eq_self.2 fun f hf => by simp [h f hf]
  have hnone : ∀ {k fs}, OfKind k fs → k ≠ .repetition → fs.filter (fun f => f.kind = .repetition) = [] := fun h hk =>
    List.filter_eq_nil_iff.2 fun f hf => by simp [h f hf, hk]
  rw [findings, List.filter_append, List.filter_append, List.filter_append,
    hnone (ofKind_corruptionFindings s) (by decide), hnone (ofKind_identityFindings s) (by decide),
    hall ((ofKind_repetitionFindings o.minSentence s).optional o.checkRepetition),
    hnone ((ofKind_mathFindings s).optional o.checkMath) (by decide), List.nil_append, List.nil_append, List.append_nil]

/-- Repeated sentences do not count for the verdict. -/
theorem rejects_filter (fs : List Finding) (o : Options) :
    (Report.ofFindings (fs.filter fun f => f.kind ≠ .repetition) o).rejects = (Report.ofFindings fs o).rejects := by
  have hfatal : (fs.filter fun f => f.kind ≠ .repetition).any (fun f => f.kind.isFatal) = fs.any fun f => f.kind.isFatal := by
    rw [List.any_filter]
    congr 1
    funext f
    cases f.kind <;> rfl
  have hcount : Report.count .malformedMath (fs.filter fun f => f.kind ≠ .repetition) = Report.count .malformedMath fs := by
    rw [Report.count, Report.count, List.countP_filter]
    congr 1
    funext f
    cases f.kind <;> rfl
  rw [Report.ofFindings, Report.ofFindings, hfatal, hcount]

/-- Options that look for the same formulas and tolerate as many give the same verdict. -/
theorem rejects_congr {o p : Options} (hmath : o.checkMath = p.checkMath) (hthreshold : o.mathThreshold = p.mathThreshold)
    (s : Text) : (check o s).rejects = (check p s).rejects :=
  Bool.eq_iff_iff.2 ⟨rejects_check_mono (fun h => hmath ▸ h) (Nat.le_of_eq hthreshold.symm),
    rejects_check_mono (fun h => hmath ▸ h) (Nat.le_of_eq hthreshold)⟩

/-- **Repeated sentences.** There is one finding for each sentence longer than `n` characters that a text holds
twice or more, in the order in which they come up for the second time; and whether and how long sentences are
compared, or what is found, makes no difference for the verdict. -/
theorem check_repetition (o : Options) (n : Nat) (s : Text) :
    let report := check { o with checkRepetition := true, minSentence := n } s
    (∃ pieces found : List Text, Pieces s pieces ∧
      report.findings.filter (fun f => f.kind = .repetition) =
        found.map (fun t => ⟨.repetition, "repeated sentence: ".toList ++ excerpt t⟩) ∧
      found.Nodup ∧
      (∀ t, t ∈ found ↔ n < t.length ∧ 2 ≤ (pieces.map trim).count t) ∧
      ∃ places : List Nat, places.Pairwise (· < ·) ∧ List.Forall₂ (IsSecond (pieces.map trim)) places found) ∧
    (Report.ofFindings (report.findings.filter fun f => f.kind ≠ .repetition) o).rejects = report.rejects ∧
    ∀ asked m, (check { o with checkRepetition := asked, minSentence := m } s).rejects = report.rejects := by
  intro report
  refine ⟨⟨sentencesFrom [] (s.length + 1) s, repeated [] [] ((sentences s).filter fun t => n < t.length), ?_, ?_, ?_, ?_, ?_⟩,
    ?_, fun asked m => ?_⟩
  · exact pieces_sentencesFrom [] s (Nat.lt_succ_self _) fun t ht hsuff => absurd (List.suffix_nil.1 hsuff) ht
  · exact filter_repetition _ s
  · exact nodup_repeated tracks_nil _
  · intro t
    rw [mem_repeated tracks_nil, List.nil_append, ← sentences]
    by_cases ht : n < t.length
    · simp [ht, List.count_filter]
    · have hcount : ((sentences s).filter fun t => n < t.length).count t = 0 :=
        List.count_eq_zero.2 fun hmem => ht (by simpa using (List.mem_filter.1 hmem).2)
      simp [ht, hcount]
  · have htracks : Tracks ([].filter fun t : Text => n < t.length) [] [] := tracks_nil
    obtain ⟨places, hsorted, -, hsecond⟩ := exists_places htracks (sentences s)
    exact ⟨places, hsorted, hsecond⟩
  · exact rejects_filter _ _
  · refine rejects_congr ?_ ?_ s
    · rfl
    · rfl

end Coursebook.Integrity
