/-
What the steps behind the repairs keep: neither the correction of squares,
nor normal form C, nor closing braces brings damage back, and the last two
make no false square.

All entries of the catalogue have one shape (`Shape`): what starts them is
a control character, a letter or a backslash, and the words they read are
made of letters, backslashes and an opening brace. So they do not see a
change behind a bracket or a sign of equality, nor braces and spaces at the
end of a text.
-/
import Coursebook.Proofs.Integrity.Repair
import Coursebook.Proofs.Integrity.Square
import Coursebook.Proofs.Text.Normal.Solid

namespace Coursebook.Corruption

/-- Characters that are damage where they stand. -/
def strays : List Char := ['\uFFFD', '\x0c', '\t', '\x08', '\r', '\n']

/-- A character that a word behind the start of damage may hold. -/
def WordPart (c : Char) : Prop := Text.isAsciiLetter c = true ∨ c = '\x7b' ∨ c = '\\'

/-- The common shape of the entries. -/
structure Shape (e : Corruption) (first : Char) (words : List Text) (whole : Bool) (head : Text) : Prop
    extends Spells e first words whole head where
  first : first ∈ strays ∨ first = 'r' ∧ words = [['a', 'c', '\x7b']] ∨
    first = '\\' ∧ ∀ w ∈ words, ∃ u, w = '\\' :: u
  parts : ∀ w ∈ words, ∀ c ∈ w, WordPart c
  guards : ∀ c, e.guard c = true → Text.isAsciiLetter c = true ∨ c = '\\'
  ascii : ∀ c ∈ head, c.toNat < 0x80

theorem shape_of_mem : ∀ e ∈ catalogue, ∃ first words whole head, Shape e first words whole head := by
  intro e he
  rw [catalogue_eq, List.cons_append, List.mem_cons, List.mem_append] at he
  rcases he with rfl | he | he
  · refine ⟨_, _, _, _, ⟨spells_replacementCharacter, .inl (by decide), by simp, fun c hc => ?_, by simp⟩⟩
    rw [replacementCharacter_guard] at hc
    exact Bool.noConfusion hc
  · obtain ⟨x, hx, rfl⟩ := List.mem_map.1 he
    have hp := escapes_proper x hx
    have hfirst : ∀ x ∈ escapes, x.control ∈ strays := by decide
    have hletter : x.letter.toNat < 0x80 :=
      Text.toNat_lt_of_alphanumeric (Text.isAsciiAlphanumeric_of_letter hp.letter)
    exact ⟨_, _, _, _, ⟨hp.spells, .inl (hfirst x hx), fun w hw c hc => .inl (hp.mem_letters hw c hc),
      fun c hc => Bool.noConfusion hc, by simpa using hletter⟩⟩
  · simp only [List.mem_cons, List.not_mem_nil, or_false] at he
    rcases he with rfl | rfl
    · refine ⟨_, _, _, _, ⟨spells_bareFraction, .inr (.inl ⟨rfl, rfl⟩), ?_, fun c hc => ?_, by simp⟩⟩
      · intro w hw c hc
        rw [List.mem_singleton.1 hw] at hc
        simp only [List.mem_cons, List.not_mem_nil, or_false] at hc
        rcases hc with rfl | rfl | rfl
        · exact .inl (by decide)
        · exact .inl (by decide)
        · exact .inr (.inl rfl)
      · simpa [bareFraction_guard] using hc
    · refine ⟨_, _, _, _, ⟨spells_doubledBackslash, .inr (.inr ⟨rfl, fun w hw => ?_⟩), ?_, fun c hc => ?_, by simp⟩⟩
      · obtain ⟨u, -, rfl⟩ := List.mem_map.1 hw
        exact ⟨_, rfl⟩
      · intro w hw c hc
        obtain ⟨u, hu, rfl⟩ := List.mem_map.1 hw
        rcases List.mem_cons.1 hc with rfl | hc
        · exact .inr (.inr rfl)
        · exact .inl (doubledWords_letters u hu c hc)
      · exact .inr (by simpa [doubledBackslash_guard] using hc)

namespace Shape

variable {e : Corruption} {first : Char} {words : List Text} {whole : Bool} {head : Text}

/-- What starts no damage. -/
theorem starts_eq_false_of (h : Shape e first words whole head) {before : Option Char} {c : Char} {s : Text}
    (hc : c ∉ strays) (hr : c = 'r' → ¬ ['a', 'c', '\x7b'] <+: s) (hb : c = '\\' → s.head? ≠ some '\\') :
    e.starts before (c :: s) = false := by
  cases hs : e.starts before (c :: s) with
  | false => rfl
  | true =>
    obtain ⟨rfl, w, hw, r, rfl, -⟩ := h.of_starts hs
    rcases h.first with hf | ⟨hf, rfl⟩ | ⟨hf, hwords⟩
    · exact absurd hf hc
    · rw [List.mem_singleton.1 hw] at hr
      exact absurd (List.prefix_append _ r) (hr hf)
    · obtain ⟨u, rfl⟩ := hwords w hw
      exact absurd rfl (hb hf)

/-- A relation between texts behind which damage is seen in the first if it is in the second. -/
theorem starts_mirror (h : Shape e first words whole head) (R : Text → Text → Prop)
    (hstep : ∀ {c s s'}, WordPart c → R s (c :: s') → ∃ t, s = c :: t ∧ R t s')
    (hends : ∀ {s s'}, R s s' → Text.endsWord s' = true → Text.endsWord s = true) {before before' : Option Char}
    (hguard : before'.any e.guard = false → before.any e.guard = false) {c : Char} {s s' : Text} (hR : R s s')
    (hs : e.starts before' (c :: s') = true) : e.starts before (c :: s) = true := by
  have hg : before'.any e.guard = false := by
    rw [starts, Bool.and_eq_true, Bool.not_eq_true'] at hs
    exact hs.2
  obtain ⟨rfl, w, hw, r', rfl, hend⟩ := h.of_starts hs
  suffices hread : ∃ r, s = w ++ r ∧ R r r' by
    obtain ⟨r, rfl, hr⟩ := hread
    rw [starts, hguard hg, h.complete hw fun hwhole => hends hr (hend hwhole)]
    rfl
  have hparts := h.parts w hw
  clear hs hw
  induction w generalizing s with
  | nil => exact ⟨s, rfl, hR⟩
  | cons d w ih =>
    obtain ⟨t, rfl, ht⟩ := hstep (hparts d List.mem_cons_self) hR
    obtain ⟨r, rfl, hr⟩ := ih ht fun c hc => hparts c (List.mem_cons_of_mem _ hc)
    exact ⟨r, rfl, hr⟩

/-! ## The correction of squares -/

theorem not_wordPart {x : Char} (h1 : Text.isAsciiLetter x = false) (h2 : x ≠ '\x7b') (h3 : x ≠ '\\') : ¬WordPart x := by
  rintro (h | h | h)
  · rw [h] at h1
    exact Bool.noConfusion h1
  · exact h2 h
  · exact h3 h

theorem starts_twin (h : Shape e first words whole head) {x : Char} (hx : ¬WordPart x) {before before' : Option Char}
    (hguard : before'.any e.guard = false → before.any e.guard = false) {c : Char} {s s' : Text}
    (ht : Text.Twin x s s') (hs : e.starts before' (c :: s') = true) : e.starts before (c :: s) = true :=
  h.starts_mirror (Text.Twin x) (fun hc hR => hR.of_cons fun he => hx (he ▸ hc))
    (fun hR he => hR.endsWord_eq ▸ he) hguard ht hs

/-- What follows a bracket or a sign of equality does not count for the damage in front of it. -/
theorem damaged_twin (h : Shape e first words whole head) {x : Char} (hx : ¬WordPart x) {before before' : Option Char}
    (hguard : before'.any e.guard = false → before.any e.guard = false) {v s s' : Text} (ht : Text.Twin x s s')
    (hd : e.Damaged before' (v ++ s')) :
    (∃ a c t, v = a ++ c :: t ∧ e.starts (lastOf before a) (c :: (t ++ s)) = true) ∨ e.Damaged (lastOf before' v) s' := by
  refine (damaged_append_iff.1 hd).imp_left ?_
  rintro ⟨a, c, t, rfl, hs⟩
  refine ⟨a, c, t, rfl, h.starts_twin hx (fun hg => ?_) (ht.append t) hs⟩
  cases ha : a.getLast? with
  | none => simpa [lastOf, ha] using hguard (by simpa [lastOf, ha] using hg)
  | some l => simpa [lastOf, ha] using hg

theorem alnum_not_mem_strays {c : Char} (h : Text.isAsciiAlphanumeric c = true) : c ∉ strays := by
  intro hm
  have key : strays.all (fun c => !Text.isAsciiAlphanumeric c) = true := by decide
  have hc := List.all_eq_true.1 key c hm
  rw [h] at hc
  exact Bool.noConfusion hc

/-- The right side of a corrected square holds no damage. -/
theorem damaged_rightSide (h : Shape e first words whole head) {a b : Char}
    (hab : ∀ x ∈ [a, b], Text.isAsciiAlphanumeric x = true) {before : Option Char} {s : Text}
    (hd : e.Damaged before ('=' :: (Identity.rightSide a b ++ s))) : e.Damaged (some '2') s := by
  have ha := hab a (by simp)
  have hb := hab b (by simp)
  have hna := alnum_not_mem_strays ha
  have hnb := alnum_not_mem_strays hb
  have ha' : a ≠ '\\' := Text.ne_of_alphanumeric ha (by decide)
  have hb' : b ≠ '\\' := Text.ne_of_alphanumeric hb (by decide)
  have hplain : ∀ {before c s}, c ∈ ['=', ' ', '^', '2', '+', 'c', 'd', 'o', 't'] → e.starts before (c :: s) = false := by
    intro before c s hc
    have key : ['=', ' ', '^', '2', '+', 'c', 'd', 'o', 't'].all (fun c => c ∉ strays ∧ c ≠ 'r' ∧ c ≠ '\\') = true := by
      decide
    obtain ⟨h1, h2, h3⟩ := of_decide_eq_true (List.all_eq_true.1 key c hc)
    exact h.starts_eq_false_of h1 (fun he => absurd he h2) fun he => absurd he h3
  -- an operand is followed by a character that is none of a fraction, or by the other operand and such a one
  have hop : ∀ {before c d s}, Text.isAsciiAlphanumeric c = true → d ≠ 'a' → e.starts before (c :: d :: s) = false := by
    intro before c d s hc hda
    refine h.starts_eq_false_of (alnum_not_mem_strays hc) (fun _ hp => ?_) fun he =>
      absurd he (Text.ne_of_alphanumeric hc (by decide))
    rw [List.cons_prefix_cons] at hp
    exact hda hp.1.symm
  have hop2 : ∀ {before c d s}, Text.isAsciiAlphanumeric c = true →
      e.starts before (c :: d :: ' ' :: s) = false := by
    intro before c d s hc
    refine h.starts_eq_false_of (alnum_not_mem_strays hc) (fun _ hp => ?_) fun he =>
      absurd he (Text.ne_of_alphanumeric hc (by decide))
    rw [List.cons_prefix_cons, List.cons_prefix_cons] at hp
    exact absurd hp.2.1 (by decide)
  have hslash : ∀ {before s}, e.starts before ('\\' :: 'c' :: s) = false := by
    intro before s
    exact h.starts_eq_false_of (by decide) (fun he => absurd he (by decide)) (by simp)
  rw [Identity.rightSide, Identity.crossTerm] at hd
  split at hd
  · simpa [Damaged, hplain, hop ha, hop hb, hop2 ha] using hd
  · simpa [Damaged, hplain, hop ha, hop hb, hslash] using hd

/-- No guard is what ends an exponent. -/
theorem guard_exponent (h : Shape e first words whole head) {l : Char}
    (hl : l = '2' ∨ Text.isBlank l = true ∨ l = '\x7d') : e.guard l = false := by
  cases hg : e.guard l with
  | false => rfl
  | true =>
    rcases h.guards l hg with hletter | rfl
    · rcases hl with rfl | hl | rfl
      · exact absurd hletter (by decide)
      · have halnum : Text.isAsciiAlphanumeric l = true := by rw [Text.isAsciiAlphanumeric, hletter, Bool.true_or]
        rw [Text.isBlank_of_alphanumeric halnum] at hl
        exact Bool.noConfusion hl
      · exact absurd hletter (by decide)
    · exact absurd hl (by decide)

theorem damaged_of_correctSquares (h : Shape e first words whole head) (s : Text) : ∀ before before' : Option Char,
    (before'.any e.guard = false → before.any e.guard = false) → e.Damaged before' (Identity.correctSquares s) →
      e.Damaged before s := by
  have hbracket : ¬WordPart '(' := not_wordPart (by decide) (by decide) (by decide)
  have hequal : ¬WordPart '=' := not_wordPart (by decide) (by decide) (by decide)
  refine Identity.correctSquares_induct (fun s o => ∀ before before' : Option Char,
    (before'.any e.guard = false → before.any e.guard = false) → e.Damaged before' o → e.Damaged before s)
    (fun _ _ _ hd => hd) (fun {c s} _ ih before before' hg hd => ?_) (fun {w r} _ _ ih before before' hg hd => ?_)
    (fun {u y r l a b} _ _ _ hl hab ih before before' hg hd => ?_) s
  · rcases hd with hd | hd
    · exact .inl (h.starts_twin hbracket hg (Identity.twin_correctSquares s) hd)
    · exact .inr (ih (some c) (some c) id hd)
  · rw [← List.cons_append] at hd ⊢
    rcases h.damaged_twin hbracket hg (Identity.twin_correctSquares r) hd with hs | hd
    · exact damaged_append_iff.2 (.inl hs)
    · exact damaged_append_iff.2 (.inr (ih _ _ (by simp) hd))
  · have ht : Text.Twin '=' ('=' :: (y ++ l :: r)) ('=' :: (Identity.rightSide a b ++ Identity.correctSquares r)) :=
      .inr ⟨[], _, _, rfl, rfl⟩
    rw [← List.cons_append] at hd ⊢
    rcases h.damaged_twin hequal hg ht hd with hs | hd
    · exact damaged_append_iff.2 (.inl hs)
    · have hd := ih (some l) (some '2') (fun _ => h.guard_exponent hl) (h.damaged_rightSide hab hd)
      have hv : '(' :: u ++ '=' :: (y ++ l :: r) = ('(' :: u ++ '=' :: y) ++ [l] ++ r := by simp
      rw [hv, damaged_append_iff, lastOf, List.getLast?_concat, Option.some_or]
      exact .inr hd

/-- The correction of squares brings back no damage. -/
theorem keeps_correctSquares (h : Shape e first words whole head) {s : Text} (hs : ¬e.Damaged none s) :
    ¬e.Damaged none (Identity.correctSquares s) := fun hd => hs (h.damaged_of_correctSquares s none none id hd)

/-! ## Normal form C -/

theorem wordPart_lt {c : Char} (h : WordPart c) : c.toNat < 0x80 := by
  rcases h with h | rfl | rfl
  · exact Text.toNat_lt_of_alphanumeric (Text.isAsciiAlphanumeric_of_letter h)
  · decide
  · decide

theorem solid_replacement : Text.Solid '\uFFFD' := by
  have hd : Text.decomposeChar '\uFFFD' = ['\uFFFD'] := by decide +kernel
  exact Text.Solid.of_not_isWordChar (by decide +kernel) hd

theorem solid_first (h : Shape e first words whole head) : Text.Solid first := by
  have key : strays.all (fun c => c = '\uFFFD' ∨ c.toNat < 0xC0) = true := by decide
  rcases h.first with hf | ⟨rfl, -⟩ | ⟨rfl, -⟩
  · rcases of_decide_eq_true (List.all_eq_true.1 key first hf) with rfl | hlt
    · exact solid_replacement
    · exact Text.Solid.of_lt hlt
  · exact Text.Solid.of_lt (by decide)
  · exact Text.Solid.of_lt (by decide)

/-- A guard behind which nothing is damage stays where it is. -/
theorem guard_normalize (h : Shape e first words whole head) {a : Text}
    (hg : (lastOf none (Text.normalize a)).any e.guard = false) : (lastOf none a).any e.guard = false := by
  rcases List.eq_nil_or_concat a with rfl | ⟨b, l, rfl⟩
  · rfl
  · rw [List.concat_eq_append] at hg ⊢
    cases hl : e.guard l with
    | false => simpa [lastOf] using hl
    | true =>
      have hlt : l.toNat < 0x80 := wordPart_lt ((h.guards l hl).imp_right .inr)
      have hs : Text.Solid l := Text.Solid.of_lt (by omega)
      rw [Text.normalize_append b (y := [l]) fun c hc => by cases hc; exact hs.leads, Text.normalize_solid hs] at hg
      simp [lastOf, hl] at hg

/-- **Normal form C makes no damage** of characters that it may hold. -/
theorem keeps_normalize (h : Shape e first words whole head) {s : Text} (hsett : ∀ c ∈ s, Text.Settled c)
    (hs : ¬e.Damaged none s) : ¬e.Damaged none (Text.normalize s) := by
  intro hd
  obtain ⟨a, c, t, he, hst⟩ := damaged_iff.1 hd
  have hc := (h.of_starts hst).1
  subst hc
  obtain ⟨p, q, rfl, rfl, hq⟩ := Text.exists_of_normalize_eq hsett h.solid_first he
  have hbehind : Text.Behind q t := ⟨fun d hd => hsett d (by simp [hd]), c, h.solid_first, hq⟩
  refine hs (damaged_iff.2 ⟨p, c, q, rfl, ?_⟩)
  refine h.starts_mirror Text.Behind (fun hd hR => ?_) (fun hR he => hR.endsWord.trans he) h.guard_normalize hbehind hst
  exact hR.cons (Text.Solid.of_lt (Nat.lt_trans (wordPart_lt hd) (by decide)))

/-! ## Closing braces -/

/-- Spaces and closing braces at the end of a text are seen by no entry. -/
theorem keeps_append (h : Shape e first words whole head) {x : Text} (hx : ∀ c ∈ x, c = ' ' ∨ c = '\x7d') {s : Text}
    (hs : ¬e.Damaged none s) : ¬e.Damaged none (s ++ x) := by
  have hno : ∀ c ∈ x, ¬WordPart c ∧ Text.isWordChar c = false ∧ c ∉ strays ∧ c ≠ 'r' ∧ c ≠ '\\' := by
    have hspace : ¬WordPart ' ' := not_wordPart (by decide) (by decide) (by decide)
    have hbrace : ¬WordPart '\x7d' := not_wordPart (by decide) (by decide) (by decide)
    intro c hc
    rcases hx c hc with rfl | rfl
    · exact ⟨hspace, by decide⟩
    · exact ⟨hbrace, by decide⟩
  have hquiet : ∀ (y : Text) before, (∀ c ∈ y, c ∈ x) → ¬e.Damaged before y := by
    intro y
    induction y with
    | nil => exact fun _ _ hd => hd
    | cons c y ih =>
      rintro before hy (hd | hd)
      · obtain ⟨-, -, h1, h2, h3⟩ := hno c (hy c List.mem_cons_self)
        rw [h.starts_eq_false_of h1 (fun he => absurd he h2) fun he => absurd he h3] at hd
        exact Bool.noConfusion hd
      · exact ih (some c) (fun d hd => hy d (List.mem_cons_of_mem _ hd)) hd
  intro hd
  rcases damaged_append_iff.1 hd with ⟨a, c, t, rfl, hst⟩ | hd
  · refine hs (damaged_iff.2 ⟨a, c, t, rfl, ?_⟩)
    refine h.starts_mirror (fun u u' => u' = u ++ x) (fun {d u u'} hd hR => ?_) (fun {u u'} hR he => ?_) id rfl hst
    · cases u with
      | nil =>
        rw [List.nil_append] at hR
        exact absurd hd (hno d (hR ▸ List.mem_cons_self)).1
      | cons f u =>
        obtain ⟨rfl, rfl⟩ := List.cons.inj hR
        exact ⟨u, rfl, rfl⟩
    · cases u with
      | nil => rfl
      | cons f u =>
        rw [hR] at he
        exact he
  · exact hquiet x _ (fun _ hc => hc) hd

end Shape

end Coursebook.Corruption

namespace Coursebook.Identity

open Text (Step Behind Settled Solid isLoose)

/-! ## False squares -/

theorem needed_lt {c : Char} (h : Needed c) : c.toNat < 0xC0 := by
  rcases h with h | rfl | rfl | rfl | rfl
  · have := Text.toNat_lt_of_alphanumeric h
    omega
  all_goals decide

theorem solid_of_isBlank {s s' : Text} (h : Behind s s') {c : Char} {t : Text} (hs : s = c :: t ∨ s' = c :: t)
    (hc : Text.isBlank c = true) : Solid c := by
  refine Settled.solid_of_isBlank ?_ hc
  rcases hs with rfl | rfl
  · exact h.1 c List.mem_cons_self
  · exact h.settled c List.mem_cons_self

/-- What normal form C leaves alone is at the head of both texts or of none. -/
theorem head?_behind {s s' : Text} (h : Behind s s') {c : Char} (hc : Solid c) (hl : isLoose c = true) :
    s.head? = some c ↔ s'.head? = some c := by
  constructor
  · intro hs
    obtain ⟨t, rfl⟩ := List.head?_eq_some_iff.1 hs
    obtain ⟨r, rfl, -⟩ := h.cons_loose hc hl
    rfl
  · intro hs
    obtain ⟨t, rfl⟩ := List.head?_eq_some_iff.1 hs
    obtain ⟨r, rfl, -⟩ := h.cons hc
    rfl

theorem trimStart_behind {s s' : Text} (h : Behind s s') : Behind (Text.trimStart s) (Text.trimStart s') := by
  have hloose : ∀ {c}, Text.isBlank c = true → isLoose c = true := fun hc => by rw [isLoose, hc, Bool.true_or]
  induction s' generalizing s with
  | nil =>
    cases s with
    | nil => exact h
    | cons c s =>
      cases hc : Text.isBlank c with
      | true =>
        obtain ⟨r, hr, -⟩ := h.cons_loose (solid_of_isBlank h (.inl rfl) hc) (hloose hc)
        exact absurd hr.symm (List.cons_ne_nil _ _)
      | false => rwa [Text.trimStart, List.dropWhile_cons_of_neg (by simp [hc])]
  | cons c s' ih =>
    cases hc : Text.isBlank c with
    | true =>
      obtain ⟨t, rfl, ht⟩ := h.cons (solid_of_isBlank h (.inr rfl) hc)
      rw [Text.trimStart, List.dropWhile_cons_of_pos hc, Text.trimStart, List.dropWhile_cons_of_pos hc]
      exact ih ht
    | false =>
      have hs : Text.trimStart s = s := by
        cases s with
        | nil => rfl
        | cons d s =>
          cases hd : Text.isBlank d with
          | true =>
            obtain ⟨r, hr, -⟩ := h.cons_loose (solid_of_isBlank h (.inl rfl) hd) (hloose hd)
            rw [(List.cons.inj hr).1, hd] at hc
            exact Bool.noConfusion hc
          | false => rw [Text.trimStart, List.dropWhile_cons_of_neg (by simp [hd])]
      rw [hs, Text.trimStart, List.dropWhile_cons_of_neg (by simp [hc])]
      exact h

theorem mirror_behind : Step.Mirror Needed Optional Behind where
  needed h hc := h.cons (Solid.of_lt (needed_lt hc))
  blank := trimStart_behind
  optional := by
    intro c s s' h hc
    have hcs : Solid c ∧ isLoose c = true := by
      rcases hc with rfl | rfl
      · exact ⟨Solid.of_lt (by decide), by decide⟩
      · exact ⟨Solid.of_lt (by decide), by decide⟩
    by_cases hs : s'.head? = some c
    · obtain ⟨t', rfl⟩ := List.head?_eq_some_iff.1 hs
      obtain ⟨t, rfl, ht⟩ := h.cons hcs.1
      rw [Text.skip_cons_self, Text.skip_cons_self]
      exact ht
    · rw [Text.skip_of_ne hs, Text.skip_of_ne (mt (head?_behind h hcs.1 hcs.2).1 hs)]
      exact h

theorem solid_sign {c : Char} (h : isSign c = true) : Solid c ∧ isLoose c = true := by
  simp only [isSign, Bool.or_eq_true, decide_eq_true_eq] at h
  rcases h with rfl | rfl
  · exact ⟨Solid.of_lt (by decide), by decide⟩
  · exact ⟨Solid.of_lt (by decide), by decide⟩

/-- **Normal form C makes no false square** of characters that it may hold. -/
theorem not_falseAt_normalize {s : Text} (hsett : ∀ c ∈ s, Settled c) (hs : ∀ t, t <:+ s → ¬FalseAt t) :
    ∀ t, t <:+ Text.normalize s → ¬FalseAt t := by
  rintro - ⟨a, ha⟩ ⟨t, rfl, hf⟩
  have hsol : Solid '(' := Solid.of_lt (by decide)
  obtain ⟨p, q, rfl, -, hq⟩ := Text.exists_of_normalize_eq hsett hsol ha.symm
  have hbehind : Behind q t := ⟨fun d hd => hsett d (by simp [hd]), '(', hsol, hq⟩
  refine hs ('(' :: q) (List.suffix_append p _) ⟨q, rfl, ?_⟩
  refine hf.mirror mirror_behind (fun hR x hx hsign => ?_) hbehind
  exact (head?_behind hR (solid_sign hsign).1 (solid_sign hsign).2).1 hx

/-- A text with spaces and closing braces at its end. -/
def Closed (s s' : Text) : Prop := ∃ x : Text, (∀ c ∈ x, c = ' ' ∨ c = '\x7d') ∧ s' = s ++ x

theorem mirror_closed : Step.Mirror Needed Optional Closed where
  needed := by
    rintro c s s' ⟨x, hx, he⟩ hc
    cases s with
    | nil =>
      rw [List.nil_append] at he
      rcases hx c (he ▸ List.mem_cons_self) with rfl | rfl
      · exact absurd hc (by simp [Needed]; decide)
      · exact absurd hc (by simp [Needed]; decide)
    | cons d s =>
      obtain ⟨rfl, rfl⟩ := List.cons.inj he
      exact ⟨s, rfl, x, hx, rfl⟩
  blank := by
    rintro s s' ⟨x, hx, rfl⟩
    induction s with
    | nil => exact ⟨Text.trimStart x, fun c hc => hx c (List.dropWhile_subset _ hc), rfl⟩
    | cons c s ih =>
      rw [Text.trimStart, Text.trimStart, List.cons_append, List.dropWhile_cons, List.dropWhile_cons]
      split
      · exact ih
      · exact ⟨x, hx, rfl⟩
  optional := by
    rintro c s s' ⟨x, hx, rfl⟩ -
    cases s with
    | nil =>
      refine ⟨Text.skip c x, fun d hd => hx d ?_, rfl⟩
      rw [Text.skip] at hd
      split at hd
      · exact List.mem_of_mem_tail hd
      · exact hd
    | cons d s =>
      by_cases hd : d = c
      · subst hd
        exact ⟨x, hx, by rw [List.cons_append, Text.skip_cons_self, Text.skip_cons_self]⟩
      · rw [List.cons_append, Text.skip_of_ne (by simpa using hd), Text.skip_of_ne (by simpa using hd)]
        exact ⟨x, hx, rfl⟩

/-- Spaces and closing braces at the end of a text make no false square. -/
theorem not_falseAt_append {x : Text} (hx : ∀ c ∈ x, c = ' ' ∨ c = '\x7d') {s : Text}
    (hs : ∀ t, t <:+ s → ¬FalseAt t) : ∀ t, t <:+ s ++ x → ¬FalseAt t := by
  rintro - ⟨a, ha⟩ ⟨t, rfl, hf⟩
  have hno : '(' ∉ x := by
    intro hm
    rcases hx _ hm with h | h
    · exact absurd h (by decide)
    · exact absurd h (by decide)
  obtain ⟨t', rfl, rfl⟩ : ∃ t', s = a ++ '(' :: t' ∧ t = t' ++ x := by
    rcases List.append_eq_append_iff.1 ha.symm with ⟨b, hb, hxb⟩ | ⟨b, hb, hxb⟩
    · rw [hxb] at hno
      exact absurd (by simp) hno
    · cases b with
      | nil =>
        rw [List.nil_append] at hxb
        rw [← hxb] at hno
        exact absurd List.mem_cons_self hno
      | cons c b =>
        obtain ⟨rfl, rfl⟩ := List.cons.inj hxb
        exact ⟨b, hb, rfl⟩
  refine hs _ (List.suffix_append a _) ⟨t', rfl, ?_⟩
  refine hf.mirror mirror_closed (fun {u u'} hR c hc _ => ?_) ⟨x, hx, rfl⟩
  obtain ⟨y, -, rfl⟩ := hR
  cases u with
  | nil => cases hc
  | cons d u => exact hc

end Coursebook.Identity
