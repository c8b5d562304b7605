/-
Garbled tokens: what the token repairs look for in a formula. A repair takes
an equals sign, a line ending or the sign `≠` away, or puts a brace in, and
none does the opposite, so no repair undoes what another one did: a body is
left as it is exactly if no garbled token stands in it
(`repairTokens_eq_self_iff`).

Everywhere else a row break `\\` is one token. The repairs do not know it
and read its second backslash as that of a control word.
`repairTokens_rowBreaks_iff` says what this does to a body whose backslashes
all belong to row breaks, in which no control word stands.
-/
import Coursebook.Proofs.Command.Edit
import Coursebook.Proofs.Integrity.Damage
import Coursebook.Proofs.Math.Repair

namespace Coursebook.Math

open Command (Outcome)
open Corruption (startsWithLetter startsWithLetter_dropWhile letters_takeWhile ne_backslash_of_letter)

/-- A garbled token at the head of a text: a negation in front of an equals sign, the word for "not
equal" at the end of a line, the sign itself, or the shorthand of a number set. -/
inductive Garbled : Text → Prop where
  | negated {w : Text} (hw : Text.isBlankText w = true) (r : Text) : Garbled ("\\not".toList ++ (w ++ '=' :: r))
  | split {w e : Text} (hw : w.all Text.isSpaceOrTab = true) (he : e = ['\n'] ∨ e = ['\r', '\n']) (r : Text) :
    Garbled ("\\neq".toList ++ (w ++ (e ++ r)))
  | sign (r : Text) : Garbled ('≠' :: r)
  | shorthand {c : Char} (hc : c ∈ numberSets) {r : Text} (hr : startsWithLetter r = false) :
    Garbled ('\\' :: c :: r)

/-- Whether a garbled token stands somewhere in a text. -/
def HasGarbled (b : Text) : Prop := ∃ t, t <:+ b ∧ Garbled t

/-! ## Lighter texts -/

/-- What the repairs make less: the characters that they take away, without the brace that they put in. -/
def weight (s : Text) : Int := s.count '=' + s.count '\n' + s.count '≠' - s.count '\x7b'

/-- Whether a text weighs less than another one. -/
def Lighter (x y : Text) : Prop := weight y < weight x

theorem weight_append (a b : Text) : weight (a ++ b) = weight a + weight b := by
  simp only [weight, List.count_append]
  omega

/-- Only braces make a text lighter. -/
theorem weight_nonneg {p : Char → Bool} {s : Text} (h : s.all p = true) (hp : p '\x7b' = false) : 0 ≤ weight s := by
  have hbrace : '\x7b' ∉ s := by
    intro hm
    rw [List.all_eq_true.1 h _ hm] at hp
    exact Bool.noConfusion hp
  rw [weight, List.count_eq_zero_of_not_mem hbrace]
  omega

namespace Lighter

variable {x y z : Text}

theorem ne (h : Lighter x y) : y ≠ x := by
  intro he
  rw [he] at h
  exact Int.lt_irrefl _ h

theorem trans (h : Lighter x y) (h' : Lighter y z) : Lighter x z := Int.lt_trans h' h

instance : Trans Lighter Lighter Lighter := ⟨Lighter.trans⟩

theorem cons (h : Lighter x y) (c : Char) : Lighter (c :: x) (c :: y) := by
  have hcons : ∀ s, weight (c :: s) = weight [c] + weight s := weight_append [c]
  unfold Lighter at *
  rw [hcons x, hcons y]
  omega

end Lighter

/-- A recogniser that puts something lighter in the place of what it reads. -/
def Lightens (match? : Text → Option (Text × Text)) : Prop :=
  ∀ s out r, match? s = some (out, r) → ∃ m, s = m ++ r ∧ m ≠ [] ∧ Lighter m out

theorem Lightens.shorter {match? : Text → Option (Text × Text)} (h : Lightens match?) {c : Char} {s out r : Text}
    (hread : match? (c :: s) = some (out, r)) : r.length ≤ s.length := by
  obtain ⟨m, hs, hne, -⟩ := h _ _ _ hread
  exact Text.length_of_match hs (List.length_pos_iff.2 hne)

/-- Whether a recogniser reads something in a text. -/
def ReadsIn (match? : Text → Option (Text × Text)) (s : Text) : Prop := ∃ t, t <:+ s ∧ (match? t).isSome

/-- A pass of such repairs changes a text exactly if it reads something in it. -/
theorem Lightens.outcome {match? : Text → Option (Text × Text)} (h : Lightens match?) (hnil : match? [] = none)
    (s : Text) : Outcome Lighter (ReadsIn match? s) s (Text.replaceMatches match? s) := by
  refine Outcome.replaceMatches hnil h.shorter (fun c _ _ hxy => hxy.cons c) ?_ s
  intro s out r r' hread hr
  obtain ⟨m, hs, -, hout⟩ := h _ _ _ hread
  unfold Lighter at *
  rw [hs, weight_append, weight_append]
  rcases hr with rfl | hr <;> omega

/-! ## What each repair reads -/

theorem isSome_negatedEquals?_iff {s : Text} : (negatedEquals? s).isSome ↔
    ∃ w r, Text.isBlankText w = true ∧ s = "\\not".toList ++ (w ++ '=' :: r) := by
  constructor
  · intro h
    obtain ⟨⟨out, r⟩, hread⟩ := Option.isSome_iff_exists.1 h
    obtain ⟨w, v, hs, hw, -, -⟩ := eq_of_negatedEquals? hread
    exact ⟨w, v ++ r, hw, by simpa using hs⟩
  · rintro ⟨w, r, hw, rfl⟩
    have htrim : Text.trimStart (w ++ '=' :: r) = '=' :: r :=
      List.dropWhile_append_of_pos (List.all_eq_true.1 hw)
    rw [negatedEquals?, Text.after?_append]
    simp [htrim]

theorem weight_notEqualWord : weight notEqualWord = 0 := by decide

theorem lightens_negatedEquals : Lightens negatedEquals? := by
  intro s out r h
  obtain ⟨w, v, hs, hw, hv, rfl⟩ := eq_of_negatedEquals? h
  refine ⟨_, hs, by simp, ?_⟩
  have hlead : weight ('\\' :: "not".toList) = 0 := by decide
  have hsign : weight ('=' :: v) = 1 + weight v := weight_append ['='] v
  have hw := weight_nonneg hw (by decide)
  have hv := weight_nonneg hv (by decide)
  rw [Lighter, weight_notEqualWord, ← List.cons_append, weight_append, weight_append, hlead, hsign]
  omega

theorem isSome_splitNotEqual?_iff {s : Text} : (splitNotEqual? s).isSome ↔
    ∃ w e r, w.all Text.isSpaceOrTab = true ∧ (e = ['\n'] ∨ e = ['\r', '\n']) ∧
      s = "\\neq".toList ++ (w ++ (e ++ r)) := by
  constructor
  · intro h
    obtain ⟨⟨out, r⟩, hread⟩ := Option.isSome_iff_exists.1 h
    obtain ⟨w, e, v, hs, hw, he, -, -⟩ := eq_of_splitNotEqual? hread
    exact ⟨w, e, v ++ r, hw, he, by simpa using hs⟩
  · rintro ⟨w, e, r, hw, he, rfl⟩
    have hend : (e ++ r).dropWhile Text.isSpaceOrTab = e ++ r := by rcases he with rfl | rfl <;> rfl
    have hdrop : (w ++ (e ++ r)).dropWhile Text.isSpaceOrTab = e ++ r := by
      rw [List.dropWhile_append_of_pos (List.all_eq_true.1 hw), hend]
    have hline : Text.afterLineEnd? (e ++ r) = some r := afterLineEnd?_eq_some_iff.2 ⟨e, he, rfl⟩
    rw [splitNotEqual?, Text.after?_append]
    simp [hdrop, hline]

theorem lightens_splitNotEqual : Lightens splitNotEqual? := by
  intro s out r h
  obtain ⟨w, e, v, hs, hw, he, hv, rfl⟩ := eq_of_splitNotEqual? h
  refine ⟨_, hs, by simp, ?_⟩
  have hlead : weight ('\\' :: "neq".toList) = 0 := by decide
  have he : weight e = 1 := by rcases he with rfl | rfl <;> decide
  have hw := weight_nonneg hw (by decide)
  have hv := weight_nonneg hv (by decide)
  rw [Lighter, weight_notEqualWord, ← List.cons_append, weight_append, weight_append, weight_append, hlead, he]
  omega

theorem isSome_notEqualSign?_iff {s : Text} : (notEqualSign? s).isSome ↔ ∃ r, s = '≠' :: r := by
  unfold notEqualSign?
  split
  · next r => simp
  · next hne => simpa using hne

theorem lightens_notEqualSign : Lightens notEqualSign? := by
  intro s out r h
  obtain ⟨v, hs, hv, rfl⟩ := eq_of_notEqualSign? h
  refine ⟨_, hs, by simp, ?_⟩
  have hsign : weight ('≠' :: v) = 1 + weight v := weight_append ['≠'] v
  have hv := weight_nonneg hv (by decide)
  rw [Lighter, weight_notEqualWord, hsign]
  omega

/-! ## Number sets -/

/-- Reads the shorthand of a number set. -/
def shorthand? : Text → Option (Text × Text)
  | '\\' :: c :: r =>
    if c ∈ numberSets ∧ startsWithLetter r = false then some ("\\mathbb\x7b".toList ++ [c, '}'], r) else none
  | _ => none

theorem shorthand?_of_ne {c : Char} (hc : c ≠ '\\') (s : Text) : shorthand? (c :: s) = none := by
  unfold shorthand?
  split
  · next h => exact absurd (List.cons.inj h).1 hc
  · rfl

theorem eq_of_shorthand? {s out r : Text} (h : shorthand? s = some (out, r)) : ∃ c ∈ numberSets,
    startsWithLetter r = false ∧ s = '\\' :: c :: r ∧ out = "\\mathbb\x7b".toList ++ [c, '}'] := by
  unfold shorthand? at h
  split at h
  · next c u =>
    split at h
    · next hc =>
      obtain ⟨rfl, rfl⟩ := Prod.mk.inj (Option.some.inj h)
      exact ⟨c, hc.1, hc.2, rfl, rfl⟩
    · simp at h
  · simp at h

theorem isSome_shorthand?_iff {s : Text} : (shorthand? s).isSome ↔
    ∃ c ∈ numberSets, ∃ r, startsWithLetter r = false ∧ s = '\\' :: c :: r := by
  constructor
  · intro h
    obtain ⟨⟨out, r⟩, hread⟩ := Option.isSome_iff_exists.1 h
    obtain ⟨c, hc, hr, hs, -⟩ := eq_of_shorthand? hread
    exact ⟨c, hc, r, hr, hs⟩
  · rintro ⟨c, hc, r, hr, rfl⟩
    rw [shorthand?, if_pos ⟨hc, hr⟩]
    rfl

theorem lightens_shorthand : Lightens shorthand? := by
  intro s out r h
  obtain ⟨c, hc, -, hs, rfl⟩ := eq_of_shorthand? h
  have hsets : numberSets.all (fun c => weight ("\\mathbb\x7b".toList ++ [c, '}']) < weight ['\\', c]) = true := by decide
  have hless : weight ("\\mathbb\x7b".toList ++ [c, '}']) < weight ['\\', c] :=
    of_decide_eq_true (List.all_eq_true.1 hsets c hc)
  exact ⟨['\\', c], hs, by simp, hless⟩

theorem isAsciiLetter_of_mem_numberSets : ∀ c ∈ numberSets, Text.isAsciiLetter c = true :=
  List.all_eq_true.1 (by decide)

/-- Among control words, only the shorthand of a number set is exchanged. -/
theorem controlWord?_cases {s out r : Text} (h : controlWord? s = some (out, r)) :
    shorthand? s = some (out, r) ∨
      shorthand? s = none ∧ ∃ w, (∀ c ∈ w, Text.isAsciiLetter c = true) ∧ s = '\\' :: (w ++ r) ∧ out = '\\' :: w := by
  unfold controlWord? at h
  split at h
  · next t =>
    have hcut : t = t.takeWhile Text.isAsciiLetter ++ t.dropWhile Text.isAsciiLetter :=
      List.takeWhile_append_dropWhile.symm
    have hletters := letters_takeWhile t
    have hend := startsWithLetter_dropWhile t
    generalize t.takeWhile Text.isAsciiLetter = word at h hcut hletters
    generalize t.dropWhile Text.isAsciiLetter = rest at h hcut hend
    subst hcut
    cases word with
    | nil => simp at h
    | cons c word =>
      cases word with
      | nil =>
        simp only at h
        by_cases hc : c ∈ numberSets
        · rw [if_pos hc] at h
          left
          rw [← h, List.singleton_append, shorthand?, if_pos ⟨hc, hend⟩]
        · rw [if_neg hc] at h
          obtain ⟨rfl, rfl⟩ := Prod.mk.inj (Option.some.inj h)
          refine .inr ⟨?_, [c], hletters, rfl, rfl⟩
          rw [List.singleton_append, shorthand?, if_neg fun hall => hc hall.1]
      | cons d word =>
        obtain ⟨rfl, rfl⟩ := Prod.mk.inj (Option.some.inj h)
        refine .inr ⟨?_, c :: d :: word, hletters, rfl, rfl⟩
        have hd : Text.isAsciiLetter d = true := hletters d (by simp)
        rw [List.cons_append, shorthand?, if_neg]
        intro hall
        have hd' : Text.isAsciiLetter d = false := hall.2
        rw [hd] at hd'
        exact Bool.noConfusion hd'
  · simp at h

theorem shorthand?_of_controlWord? {s : Text} (h : controlWord? s = none) : shorthand? s = none := by
  cases hread : shorthand? s with
  | none => rfl
  | some found =>
    obtain ⟨out, r⟩ := found
    obtain ⟨c, hc, -, rfl, -⟩ := eq_of_shorthand? hread
    have hletter := isAsciiLetter_of_mem_numberSets c hc
    rw [controlWord?, List.takeWhile_cons_of_pos hletter] at h
    generalize r.takeWhile Text.isAsciiLetter = w at h
    generalize (c :: r).dropWhile Text.isAsciiLetter = rest at h
    cases w with
    | nil =>
      simp only [if_pos hc] at h
      exact absurd h (Option.some_ne_none _)
    | cons d w => exact absurd h (Option.some_ne_none _)

/-- A control word that is no shorthand stays, and so does all in it. -/
theorem replaceMatches_shorthand_letters {w : Text} (hw : ∀ c ∈ w, Text.isAsciiLetter c = true) (r : Text) :
    Text.replaceMatches shorthand? (w ++ r) = w ++ Text.replaceMatches shorthand? r := by
  induction w with
  | nil => rfl
  | cons c w ih =>
    obtain ⟨hc, hw⟩ := List.forall_mem_cons.1 hw
    rw [List.cons_append, Text.replaceMatches_none (shorthand?_of_ne (ne_backslash_of_letter hc) _), ih hw, List.cons_append]

/-- The pass over control words is one over the shorthand of number sets. -/
theorem replaceMatches_controlWord (s : Text) :
    Text.replaceMatches controlWord? s = Text.replaceMatches shorthand? s := by
  refine Text.replaceMatches_induct (Q := fun s s' => s' = Text.replaceMatches shorthand? s) ?nil ?keep ?exchange ?shorter s
  case nil => rw [Text.replaceMatches]
  case keep =>
    intro c s hnone ih
    rw [Text.replaceMatches_none (shorthand?_of_controlWord? hnone), ih]
  case exchange =>
    intro c s out r hread ih
    rcases controlWord?_cases hread with hshort | ⟨hnone, w, hw, hs, rfl⟩
    · obtain ⟨d, -, -, hs, -⟩ := eq_of_shorthand? hshort
      have hlength : r.length ≤ s.length := by simp [(List.cons.inj hs).2]
      rw [Text.replaceMatches_some hshort hlength, ih]
    · obtain ⟨rfl, rfl⟩ := List.cons.inj hs
      rw [Text.replaceMatches_none hnone, replaceMatches_shorthand_letters hw, ih, List.cons_append]
  case shorter => exact tokenPass_controlWord.shorter

/-! ## All repairs -/

theorem garbled_iff {s : Text} : Garbled s ↔ (negatedEquals? s).isSome ∨ (splitNotEqual? s).isSome ∨
    (notEqualSign? s).isSome ∨ (shorthand? s).isSome := by
  rw [isSome_negatedEquals?_iff, isSome_splitNotEqual?_iff, isSome_notEqualSign?_iff, isSome_shorthand?_iff]
  constructor
  · intro h
    cases h with
    | negated hw r => exact .inl ⟨_, r, hw, rfl⟩
    | split hw he r => exact .inr (.inl ⟨_, _, r, hw, he, rfl⟩)
    | sign r => exact .inr (.inr (.inl ⟨r, rfl⟩))
    | shorthand hc hr => exact .inr (.inr (.inr ⟨_, hc, _, hr, rfl⟩))
  · rintro (⟨w, r, hw, rfl⟩ | ⟨w, e, r, hw, he, rfl⟩ | ⟨r, rfl⟩ | ⟨c, hc, r, hr, rfl⟩)
    · exact .negated hw r
    · exact .split hw he r
    · exact .sign r
    · exact .shorthand hc hr

/-- **The repairs exchange garbled tokens**, if there are any. -/
theorem outcome_repairTokens (b : Text) : Outcome Lighter (HasGarbled b) b (repairTokens b) := by
  have hnegated := lightens_negatedEquals.outcome rfl b
  have hsplit := hnegated.trans (ReadsIn splitNotEqual?) (lightens_splitNotEqual.outcome rfl _)
  have hsign := hsplit.trans (ReadsIn notEqualSign?) (lightens_notEqualSign.outcome rfl _)
  have hsets := hsign.trans (ReadsIn shorthand?) (lightens_shorthand.outcome rfl _)
  rw [← replaceMatches_controlWord] at hsets
  refine hsets.congr ?_
  simp only [HasGarbled, ReadsIn, garbled_iff, and_or_left, exists_or, or_assoc]

/-- **A body is left as it is** exactly if no garbled token stands in it. -/
theorem repairTokens_eq_self_iff (b : Text) : repairTokens b = b ↔ ¬HasGarbled b := by
  rcases outcome_repairTokens b with ⟨hno, heq⟩ | ⟨hyes, hlighter⟩
  · exact ⟨fun _ => hno, fun _ => heq⟩
  · exact ⟨fun heq => absurd heq hlighter.ne, fun hno => absurd hyes hno⟩

/-! ## Row breaks -/

/-- Whether all backslashes of a text belong to row breaks, read from the left. -/
def onlyBreaks : Text → Bool
  | [] => true
  | ['\\'] => false
  | '\\' :: c :: s => c = '\\' && onlyBreaks s
  | _ :: s => onlyBreaks s

/-- A backslash in front of another character is the second one of a row break. -/
theorem break_suffix {b : Text} (hb : onlyBreaks b = true) {c : Char} {t : Text} (hc : c ≠ '\\')
    (h : '\\' :: c :: t <:+ b) : '\\' :: '\\' :: c :: t <:+ b := by
  fun_induction onlyBreaks b with
  | case1 => simp at h
  | case2 => simp at hb
  | case3 d s ih =>
    simp only [Bool.and_eq_true, decide_eq_true_eq] at hb
    obtain ⟨rfl, hs⟩ := hb
    rcases List.suffix_cons_iff.1 h with heq | h
    · exact absurd (List.cons.inj (List.cons.inj heq).2).1 hc
    rcases List.suffix_cons_iff.1 h with heq | h
    · exact heq ▸ List.suffix_rfl
    · exact ((ih hs h).trans (List.suffix_cons _ s)).trans (List.suffix_cons _ _)
  | case4 d s h1 h2 ih =>
    rcases List.suffix_cons_iff.1 h with heq | h
    · obtain ⟨rfl, rfl⟩ := List.cons.inj heq
      exact absurd rfl (h2 c t rfl)
    · exact (ih hb h).trans (List.suffix_cons d s)

/-- Every garbled token but the sign is a backslash and a letter. -/
theorem Garbled.cases {t : Text} (h : Garbled t) : '≠' ∈ t ∨ ∃ c u, t = '\\' :: c :: u ∧ c ≠ '\\' := by
  cases h with
  | negated hw r => exact .inr ⟨'n', _, rfl, by decide⟩
  | split hw he r => exact .inr ⟨'n', _, rfl, by decide⟩
  | sign r => exact .inl List.mem_cons_self
  | @shorthand c hc r hr =>
    exact .inr ⟨c, r, rfl, ne_backslash_of_letter (isAsciiLetter_of_mem_numberSets c hc)⟩

/-- **Row breaks are kept** exactly if none of them has a text behind it that makes a garbled token of its
second backslash. The body holds no control word: each of its backslashes belongs to a row break. -/
theorem repairTokens_rowBreaks_iff (b : Text) (hb : onlyBreaks b = true) (hsign : '≠' ∉ b) :
    repairTokens b = b ↔ ∀ t, '\\' :: '\\' :: t <:+ b → ¬Garbled ('\\' :: t) := by
  rw [repairTokens_eq_self_iff]
  constructor
  · intro hno t ht hgarbled
    exact hno ⟨'\\' :: t, (List.suffix_cons _ _).trans ht, hgarbled⟩
  · rintro hno ⟨t, ht, hgarbled⟩
    rcases hgarbled.cases with hmem | ⟨c, u, rfl, hc⟩
    · exact hsign (ht.subset hmem)
    · exact hno (c :: u) (break_suffix hb hc ht) hgarbled

/-- A row that starts with a negated equation is taken for a control word. -/
theorem repairTokens_rowBreaks_negation :
    let b : Text := "a\\\\not= b".toList
    onlyBreaks b = true ∧ '≠' ∉ b ∧ repairTokens b ≠ b := by
  intro b
  have hb : onlyBreaks b = true := by decide
  have hsign : '≠' ∉ b := by decide
  refine ⟨hb, hsign, fun heq => ?_⟩
  have hno := (repairTokens_rowBreaks_iff b hb hsign).1 heq "not= b".toList (by decide)
  exact hno (.negated (w := []) rfl " b".toList)

end Coursebook.Math
