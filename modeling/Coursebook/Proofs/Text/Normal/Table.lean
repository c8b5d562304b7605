/-
What the tables of normal form C promise: a composite decomposes into the
two characters that make it, a decomposition has nothing left to decompose,
and composing does not turn a word character into another one.

The tables are too long to compare their entries one by one. A set of code
points is held in the bits of one number here, so that a whole table is
compared with another in one step (`testBit_of_subset`).
-/
import Coursebook.Text.Normal
import Coursebook.Text.WordChar

namespace Coursebook.Text

/-! ## Sets of code points -/

/-- The set of the code points in some ranges; a code point is in it if that bit is set. -/
def rangeSet (ranges : List (Nat × Nat)) : Nat := ranges.foldl (fun m (a, b) => m ||| (1 <<< (b + 1 - a) - 1) <<< a) 0

/-- The set of the code points in a list. -/
def codeSet (ns : List Nat) : Nat := ns.foldl (fun m n => 1 <<< n ||| m) 0

theorem inRanges_cons (a b : Nat) (ranges : List (Nat × Nat)) (n : Nat) :
    inRanges ((a, b) :: ranges) n = (decide (a ≤ n ∧ n ≤ b) || inRanges ranges n) := by
  simp [inRanges]

theorem inRanges_append (r r' : List (Nat × Nat)) (n : Nat) :
    inRanges (r ++ r') n = (inRanges r n || inRanges r' n) := List.any_append

theorem testBit_insert (m d n : Nat) : (1 <<< d ||| m).testBit n = (decide (d = n) || m.testBit n) := by
  rw [Nat.testBit_or, Nat.one_shiftLeft, Nat.testBit_two_pow]

theorem testBit_insertRange (m a b n : Nat) :
    (m ||| (1 <<< (b + 1 - a) - 1) <<< a).testBit n = (m.testBit n || decide (a ≤ n ∧ n ≤ b)) := by
  have hn : (decide (n ≥ a) && decide (n - a < b + 1 - a)) = decide (a ≤ n ∧ n ≤ b) := by
    rw [← Bool.decide_and, decide_eq_decide]
    omega
  rw [Nat.testBit_or, Nat.testBit_shiftLeft, Nat.one_shiftLeft, Nat.testBit_two_pow_sub_one, hn]

theorem testBit_rangeSet (ranges : List (Nat × Nat)) (n : Nat) : (rangeSet ranges).testBit n = inRanges ranges n := by
  have key : ∀ m, (ranges.foldl (fun m (a, b) => m ||| (1 <<< (b + 1 - a) - 1) <<< a) m).testBit n =
      (m.testBit n || inRanges ranges n) := by
    induction ranges with
    | nil => simp [inRanges]
    | cons r ranges ih =>
      intro m
      rw [List.foldl_cons, ih, testBit_insertRange, inRanges_cons, Bool.or_assoc]
  rw [rangeSet, key, Nat.zero_testBit, Bool.false_or]

theorem testBit_codeSet (ns : List Nat) (n : Nat) : (codeSet ns).testBit n = true ↔ n ∈ ns := by
  have key : ∀ m, (ns.foldl (fun m n => 1 <<< n ||| m) m).testBit n = true ↔ m.testBit n = true ∨ n ∈ ns := by
    induction ns with
    | nil => simp
    | cons d ns ih =>
      intro m
      rw [List.foldl_cons, ih, testBit_insert, Bool.or_eq_true, decide_eq_true_eq, List.mem_cons]
      grind
  rw [codeSet, key, Nat.zero_testBit]
  simp

/-- One comparison of two sets says it for all their members. -/
theorem testBit_of_subset {m m' : Nat} (h : m &&& m' = m) {n : Nat} (hn : m.testBit n = true) : m'.testBit n = true := by
  have := congrArg (·.testBit n) h
  simpa [hn] using this

theorem testBit_of_disjoint {m m' : Nat} (h : m &&& m' = 0) {n : Nat} (hn : m.testBit n = true) :
    m'.testBit n = false := by
  have := congrArg (·.testBit n) h
  simpa [hn] using this

/-! ## The entries -/

/-- What a pair makes. -/
def composites : List Nat := compositions.map (·.1)

/-- What composes with a character behind it. -/
def firsts : List Nat := compositions.map (·.2.1)

/-- What composes with a character in front of it. -/
def seconds : List Nat := compositions.map (·.2.2)

/-- What the tables decompose. -/
def decomposable : List Nat := composites ++ decompositions.map (·.1)

/-- What the tables decompose it into, the first of a composite apart. -/
def parts : List Nat := seconds ++ decompositions.flatMap (·.2)

/-- Hangul syllables, and what they are made of. -/
def hangulRanges : List (Nat × Nat) := [(0x1100, 0x11C2), (0xAC00, 0xD7A3)]

/-- All code points but the Hangul syllables and the surrogates. -/
def plainRanges : List (Nat × Nat) := [(0, 0xABFF), (0xD7A4, 0xD7FF), (0xE000, 0x10FFFF)]

/-- White space. -/
def blankRanges : List (Nat × Nat) :=
  [(0x09, 0x0D), (0x20, 0x20), (0x85, 0x85), (0xA0, 0xA0), (0x1680, 0x1680), (0x2000, 0x200A), (0x2028, 0x2029),
   (0x202F, 0x202F), (0x205F, 0x205F), (0x3000, 0x3000)]

/-- Word characters of ASCII. -/
def asciiWordRanges : List (Nat × Nat) := [(0x30, 0x39), (0x41, 0x5A), (0x5F, 0x5F), (0x61, 0x7A)]

/-- Two signs and the braces. -/
def signs : List Nat := [0x2B, 0x2D, 0x7B, 0x7D]

/-- Hangul characters. -/
def hangulSet : Nat := rangeSet hangulRanges

/-- Characters of white space. -/
def blankSet : Nat := rangeSet blankRanges

/-- Word characters. -/
def wordSet : Nat := rangeSet (asciiWordRanges ++ wordRanges)

/-- What a code point decomposes into stands in the tables behind it. `seen` is the set of what stands
in front of the rest of the pairs, and no first of a pair is in it. -/
def layered : Nat → List (Nat × Nat × Nat) → Bool
  | _, [] => true
  | seen, (d, a, _) :: pairs => !seen.testBit d && !(1 <<< d ||| seen).testBit a && layered (1 <<< d ||| seen) pairs

/-! ## Comparisons of whole tables -/

/-- How the tables lie to each other. It is one statement, since most of the work is to build the sets. -/
theorem tables_compared :
    rangeSet [(0, 0x7F)] &&& rangeSet wordRanges = 0 ∧
    codeSet decomposable &&& rangeSet ((0, 0xBF) :: hangulRanges) = 0 ∧
    codeSet parts &&& codeSet decomposable = 0 ∧
    (∀ ns ∈ [composites, firsts, parts], codeSet ns &&& rangeSet plainRanges = codeSet ns) ∧
    (∀ m ∈ [hangulSet, codeSet seconds, rangeSet (combiningClasses.map (·.1))], m &&& wordSet = m) ∧
    (compositions.all fun e => wordSet.testBit e.1 == wordSet.testBit e.2.1) = true ∧
    (∀ m ∈ [wordSet, codeSet composites], m &&& blankSet = 0) ∧
    (codeSet firsts ||| hangulSet) &&& (blankSet ||| codeSet signs) = 0 ∧
    (decompositions.all fun e => !e.2.isEmpty) = true ∧
    layered 0 compositions = true := by decide +kernel

theorem compositions_layered : layered 0 compositions = true := tables_compared.2.2.2.2.2.2.2.2.2

theorem decompositions_ne_nil {e : Nat × List Nat} (h : e ∈ decompositions) : e.2 ≠ [] := by
  obtain ⟨-, -, -, -, -, -, -, -, hd, -⟩ := tables_compared
  have := List.all_eq_true.1 hd e h
  simpa using this

/-- Nothing below U+00C0 decomposes by the tables, nor does a Hangul character. -/
theorem not_mem_decomposable {n : Nat} (h : inRanges ((0, 0xBF) :: hangulRanges) n = true) : n ∉ decomposable := by
  obtain ⟨-, hd, -⟩ := tables_compared
  intro hm
  have := testBit_of_disjoint hd ((testBit_codeSet decomposable n).2 hm)
  rw [testBit_rangeSet, h] at this
  exact Bool.false_ne_true this.symm

/-- Parts have nothing left to decompose. -/
theorem parts_disjoint {n : Nat} (h : n ∈ parts) : n ∉ decomposable := by
  obtain ⟨-, -, hd, -⟩ := tables_compared
  rw [← testBit_codeSet, testBit_of_disjoint hd ((testBit_codeSet parts n).2 h)]
  exact Bool.false_ne_true

theorem inRanges_plain {n : Nat} (h : n ∈ composites ++ firsts ++ parts) : inRanges plainRanges n = true := by
  obtain ⟨-, -, -, hp, -⟩ := tables_compared
  have key : ∀ ns ∈ [composites, firsts, parts], n ∈ ns → inRanges plainRanges n = true := by
    intro ns hns hn
    rw [← testBit_rangeSet]
    exact testBit_of_subset (hp ns hns) ((testBit_codeSet ns n).2 hn)
  rcases List.mem_append.1 h with h | h
  · rcases List.mem_append.1 h with h | h
    · exact key composites (by simp) h
    · exact key firsts (by simp) h
  · exact key parts (by simp) h

/-- Hangul characters, marks, and what composes with a character in front of it, are word characters. -/
theorem testBit_wordSet {m : Nat} (hm : m ∈ [hangulSet, codeSet seconds, rangeSet (combiningClasses.map (·.1))])
    {n : Nat} (h : m.testBit n = true) : wordSet.testBit n = true := by
  obtain ⟨-, -, -, -, hw, -⟩ := tables_compared
  exact testBit_of_subset (hw m hm) h

/-- A composite is a word character if the first of its pair is one. -/
theorem testBit_wordSet_composite {d a b : Nat} (h : (d, a, b) ∈ compositions) :
    wordSet.testBit d = wordSet.testBit a := by
  obtain ⟨-, -, -, -, -, hw, -⟩ := tables_compared
  exact beq_iff_eq.1 (List.all_eq_true.1 hw _ h)

/-- Word characters and composites are no white space. -/
theorem testBit_blankSet {m : Nat} (hm : m ∈ [wordSet, codeSet composites]) {n : Nat} (h : m.testBit n = true) :
    blankSet.testBit n = false := by
  obtain ⟨-, -, -, -, -, -, hb, -⟩ := tables_compared
  exact testBit_of_disjoint (hb m hm) h

/-- Nothing composes behind white space, a sign or a brace. -/
theorem testBit_looseSet {n : Nat} (h : (codeSet firsts ||| hangulSet).testBit n = true) :
    (blankSet ||| codeSet signs).testBit n = false := by
  obtain ⟨-, -, -, -, -, -, -, hl, -⟩ := tables_compared
  exact testBit_of_disjoint hl h

/-! ## Word characters and white space by their code points -/

theorem isBlank_eq (c : Char) : isBlank c = blankSet.testBit c.toNat := by
  rw [blankSet, testBit_rangeSet, Bool.eq_iff_iff]
  simp only [isBlank, blankRanges, inRanges, List.any_cons, List.any_nil, Bool.or_eq_true, Bool.and_eq_true,
    decide_eq_true_eq, Bool.or_false]
  omega

theorem isWordChar_eq (c : Char) : isWordChar c = wordSet.testBit c.toNat := by
  rw [wordSet, testBit_rangeSet, inRanges_append, isWordChar]
  split
  · next hc =>
    have hw : inRanges wordRanges c.toNat = false := by
      rw [← testBit_rangeSet]
      refine testBit_of_disjoint tables_compared.1 ?_
      rw [testBit_rangeSet, inRanges_cons, Bool.or_eq_true, decide_eq_true_eq]
      omega
    have hle : ∀ a b : Char, a ≤ b ↔ a.toNat ≤ b.toNat := fun _ _ => Iff.rfl
    have he : c = '_' ↔ c.toNat = 0x5F := ⟨fun h => h ▸ rfl, fun h => Char.toNat_inj.1 h⟩
    rw [hw, Bool.or_false, Bool.eq_iff_iff]
    simp only [isAsciiAlphanumeric, isAsciiLetter, isAsciiDigit, asciiWordRanges, inRanges, List.any_cons,
      List.any_nil, Bool.or_eq_true, Bool.and_eq_true, decide_eq_true_eq, Bool.or_false, hle, he, Char.reduceToNat]
    omega
  · next hc =>
    have ha : inRanges asciiWordRanges c.toNat = false := by
      simp only [asciiWordRanges, inRanges, List.any_cons, List.any_nil, Bool.or_false, Bool.or_eq_false_iff,
        Bool.and_eq_false_iff, decide_eq_false_iff_not]
      omega
    rw [ha, Bool.false_or]

theorem toNat_ofNat {n : Nat} (h : n < 0xD800 ∨ 0xDFFF < n ∧ n < 0x110000) : (Char.ofNat n).toNat = n := by
  have hv : n.isValidChar := h
  rw [Char.ofNat, dif_pos hv]
  rfl

theorem toNat_ofNat_of_mem {n : Nat} (h : n ∈ composites ++ firsts ++ parts) : (Char.ofNat n).toNat = n := by
  have hp := inRanges_plain h
  simp only [plainRanges, inRanges, List.any_cons, List.any_nil, Bool.or_false, Bool.or_eq_true, Bool.and_eq_true,
    decide_eq_true_eq] at hp
  exact toNat_ofNat (by omega)

theorem not_isHangulSyllable_of_mem {n : Nat} (h : n ∈ composites ++ firsts ++ parts) :
    isHangulSyllable n = false := by
  have hp := inRanges_plain h
  simp only [plainRanges, inRanges, List.any_cons, List.any_nil, Bool.or_false, Bool.or_eq_true, Bool.and_eq_true,
    decide_eq_true_eq] at hp
  simp only [isHangulSyllable, Bool.and_eq_false_iff, decide_eq_false_iff_not]
  omega

theorem layered_cons {seen d a b : Nat} {pairs : List (Nat × Nat × Nat)} (h : layered seen ((d, a, b) :: pairs) = true) :
    seen.testBit d = false ∧ a ≠ d ∧ seen.testBit a = false ∧ layered (1 <<< d ||| seen) pairs = true := by
  simp only [layered, Bool.and_eq_true, Bool.not_eq_true', testBit_insert, Bool.or_eq_false_iff,
    decide_eq_false_iff_not] at h
  exact ⟨h.1.1, fun he => h.1.2.1 he.symm, h.1.2.2, h.2⟩

theorem layered_mem {seen : Nat} {pairs : List (Nat × Nat × Nat)} (h : layered seen pairs = true) {d a b : Nat}
    (hm : (d, a, b) ∈ pairs) : seen.testBit d = false ∧ seen.testBit a = false := by
  induction pairs generalizing seen with
  | nil => simp at hm
  | cons e pairs ih =>
    obtain ⟨hd, -, ha, hl⟩ := layered_cons h
    rcases List.mem_cons.1 hm with rfl | hm
    · exact ⟨hd, ha⟩
    · have := ih hl hm
      simp only [testBit_insert, Bool.or_eq_false_iff] at this
      exact ⟨this.1.2, this.2.2⟩

/-! ## Decomposition -/

/-- A composite decomposes as the first of its pair does, with the second behind it. -/
theorem decomposeCode_of_mem {seen : Nat} {pairs : List (Nat × Nat × Nat)} (h : layered seen pairs = true) {d a b : Nat}
    (hm : (d, a, b) ∈ pairs) : decomposeCode pairs d = decomposeCode pairs a ++ [b] := by
  induction pairs generalizing seen with
  | nil => simp at hm
  | cons e pairs ih =>
    obtain ⟨-, hne, -, hl⟩ := layered_cons h
    rcases List.mem_cons.1 hm with rfl | hm
    · rw [decomposeCode, if_pos rfl, decomposeCode, if_neg hne]
    · have hs := layered_mem hl hm
      simp only [testBit_insert, Bool.or_eq_false_iff, decide_eq_false_iff_not] at hs
      rw [decomposeCode, if_neg (Ne.symm hs.1.1), decomposeCode, if_neg (Ne.symm hs.2.1), ih hl hm]

theorem decomposeCode_nil_of_not_mem {n : Nat} (h : n ∉ decompositions.map (·.1)) : decomposeCode [] n = [n] := by
  have : decompositions.find? (·.1 = n) = none := by
    rw [List.find?_eq_none]
    intro e he hd
    exact h (List.mem_map.2 ⟨e, he, of_decide_eq_true hd⟩)
  rw [decomposeCode, this]

theorem decomposeCode_of_not_mem {pairs : List (Nat × Nat × Nat)} {n : Nat}
    (h : n ∉ pairs.map (·.1)) (h' : n ∉ decompositions.map (·.1)) : decomposeCode pairs n = [n] := by
  induction pairs with
  | nil => exact decomposeCode_nil_of_not_mem h'
  | cons e pairs ih =>
    rw [List.map_cons, List.mem_cons, not_or] at h
    rw [decomposeCode, if_neg h.1, ih h.2]

theorem decomposeCode_of_not_decomposable {n : Nat} (h : n ∉ decomposable) : decomposeCode compositions n = [n] := by
  rw [decomposable, List.mem_append, not_or] at h
  exact decomposeCode_of_not_mem h.1 h.2

/-- A code point in a decomposition is one of the parts, or a character that nothing decomposes. -/
theorem mem_decomposeCode {seen : Nat} {pairs : List (Nat × Nat × Nat)} (h : layered seen pairs = true) {n m : Nat}
    (hn : seen.testBit n = false) (hm : m ∈ decomposeCode pairs n) :
    m ∈ pairs.map (·.2.2) ∨ m ∈ decompositions.flatMap (·.2) ∨ (m = n ∨ m ∈ pairs.map (·.2.1)) ∧
      seen.testBit m = false ∧ m ∉ pairs.map (·.1) ∧ m ∉ decompositions.map (·.1) := by
  induction pairs generalizing seen n with
  | nil =>
    by_cases hk : n ∈ decompositions.map (·.1)
    · obtain ⟨e, he, rfl⟩ := List.mem_map.1 hk
      rw [decomposeCode] at hm
      split at hm
      · next ns hf => exact .inr (.inl (List.mem_flatMap.2 ⟨_, List.mem_of_find?_eq_some hf, hm⟩))
      · next hf => simpa using List.find?_eq_none.1 hf e he
    · rw [decomposeCode_nil_of_not_mem hk, List.mem_singleton] at hm
      subst hm
      exact .inr (.inr ⟨.inl rfl, hn, by simp, hk⟩)
  | cons e pairs ih =>
    obtain ⟨d, a, b⟩ := e
    obtain ⟨hd, hne, ha, hl⟩ := layered_cons h
    have step : ∀ {k}, k ≠ d → k = n ∨ k = a → seen.testBit k = false → m ∈ decomposeCode pairs k →
        m ∈ ((d, a, b) :: pairs).map (·.2.2) ∨ m ∈ decompositions.flatMap (·.2) ∨
          (m = n ∨ m ∈ ((d, a, b) :: pairs).map (·.2.1)) ∧ seen.testBit m = false ∧
            m ∉ ((d, a, b) :: pairs).map (·.1) ∧ m ∉ decompositions.map (·.1) := by
      intro k hkd hkn hk hm
      have hk' : (1 <<< d ||| seen).testBit k = false := by
        rw [testBit_insert, hk, decide_eq_false (Ne.symm hkd)]
        rfl
      rcases ih hl hk' hm with hb | hp | ⟨he, hs, hc, hp⟩
      · exact .inl (List.mem_cons_of_mem _ hb)
      · exact .inr (.inl hp)
      · simp only [testBit_insert, Bool.or_eq_false_iff, decide_eq_false_iff_not] at hs
        refine .inr (.inr ⟨?_, hs.2, ?_, hp⟩)
        · rcases he with rfl | he
          · rcases hkn with rfl | rfl
            · exact .inl rfl
            · exact .inr List.mem_cons_self
          · exact .inr (List.mem_cons_of_mem _ he)
        · rw [List.map_cons, List.mem_cons, not_or]
          exact ⟨Ne.symm hs.1, hc⟩
    rw [decomposeCode] at hm
    split at hm
    · rcases List.mem_append.1 hm with hm | hm
      · exact step hne (.inr rfl) ha hm
      · rw [List.mem_singleton.1 hm]
        exact .inl List.mem_cons_self
    · next hnd => exact step hnd (.inl rfl) hn hm

theorem decomposeCode_of_mem_decomposeCode {n m : Nat} (h : m ∈ decomposeCode compositions n) :
    decomposeCode compositions m = [m] ∧ (m = n ∨ m ∈ composites ++ firsts ++ parts) := by
  rcases mem_decomposeCode compositions_layered (Nat.zero_testBit n) h with hm | hm | ⟨he, -, hc, hd⟩
  · have hm := List.mem_append_left (decompositions.flatMap (·.2)) hm
    exact ⟨decomposeCode_of_not_decomposable (parts_disjoint hm), .inr (List.mem_append_right _ hm)⟩
  · have hm := List.mem_append_right seconds hm
    exact ⟨decomposeCode_of_not_decomposable (parts_disjoint hm), .inr (List.mem_append_right _ hm)⟩
  · exact ⟨decomposeCode_of_not_mem hc hd,
      he.imp_right fun he => List.mem_append_left _ (List.mem_append_right _ he)⟩

theorem decomposeCode_ne_nil (pairs : List (Nat × Nat × Nat)) (n : Nat) : decomposeCode pairs n ≠ [] := by
  induction pairs generalizing n with
  | nil =>
    rw [decomposeCode]
    split
    · next ns hf => exact decompositions_ne_nil (List.mem_of_find?_eq_some hf)
    · simp
  | cons e pairs ih =>
    rw [decomposeCode]
    split
    · simp
    · exact ih n

/-! ## Characters -/

theorem not_mem_decomposable_of_lt {c : Char} (h : c.toNat < 0xC0) : c.toNat ∉ decomposable := by
  refine not_mem_decomposable ?_
  rw [inRanges_cons, Bool.or_eq_true, decide_eq_true_eq]
  omega

theorem decomposeChar_of_lt {c : Char} (h : c.toNat < 0xC0) : decomposeChar c = [c] := by
  rw [decomposeChar, if_pos h]

theorem decomposeChar_eq {c : Char} (h : isHangulSyllable c.toNat = false) :
    decomposeChar c = (decomposeCode compositions c.toNat).map Char.ofNat := by
  rw [decomposeChar]
  split
  · next hc =>
    rw [decomposeCode_of_not_decomposable (not_mem_decomposable_of_lt hc), List.map_singleton, Char.ofNat_toNat]
  · rw [if_neg (by simp [h])]

theorem decomposeHangul_ne_nil (n : Nat) : decomposeHangul n ≠ [] := by
  rw [decomposeHangul]
  split <;> simp

theorem decomposeChar_ne_nil (c : Char) : decomposeChar c ≠ [] := by
  rw [decomposeChar]
  split
  · simp
  · split
    · exact decomposeHangul_ne_nil _
    · simpa using decomposeCode_ne_nil compositions c.toNat

/-- The consonants and vowels of Hangul decompose no further. -/
theorem decomposeChar_jamo {n : Nat} (h : 0x1100 ≤ n) (h' : n < 0x11C3) : decomposeChar (Char.ofNat n) = [Char.ofNat n] := by
  have ht : (Char.ofNat n).toNat = n := toNat_ofNat (by omega)
  have hn : n ∉ decomposable := not_mem_decomposable (by
    simp only [hangulRanges, inRanges_cons, Bool.or_eq_true, decide_eq_true_eq]
    omega)
  have hh : isHangulSyllable n = false := by
    simp only [isHangulSyllable, Bool.and_eq_false_iff, decide_eq_false_iff_not]
    omega
  rw [decomposeChar_eq (ht.symm ▸ hh), ht, decomposeCode_of_not_decomposable hn, List.map_singleton]

/-- **Decompositions are full.** -/
theorem decomposeChar_of_mem {c d : Char} (h : d ∈ decomposeChar c) : decomposeChar d = [d] := by
  cases hc : isHangulSyllable c.toNat with
  | true =>
    have hge : ¬c.toNat < 0xC0 := by
      simp only [isHangulSyllable, Bool.and_eq_true, decide_eq_true_eq] at hc
      omega
    rw [decomposeChar, if_neg hge, if_pos hc] at h
    simp only [isHangulSyllable, Bool.and_eq_true, decide_eq_true_eq] at hc
    obtain ⟨n, rfl, h1, h2⟩ : ∃ n, d = Char.ofNat n ∧ 0x1100 ≤ n ∧ n < 0x11C3 := by
      simp only [decomposeHangul] at h
      split at h
      · simp only [List.mem_cons, List.not_mem_nil, or_false] at h
        rcases h with h | h
        · exact ⟨_, h, by omega, by omega⟩
        · exact ⟨_, h, by omega, by omega⟩
      · simp only [List.cons_append, List.nil_append, List.mem_cons, List.not_mem_nil, or_false] at h
        rcases h with h | h | h
        · exact ⟨_, h, by omega, by omega⟩
        · exact ⟨_, h, by omega, by omega⟩
        · exact ⟨_, h, by omega, by omega⟩
    exact decomposeChar_jamo h1 h2
  | false =>
    rw [decomposeChar_eq hc, List.mem_map] at h
    obtain ⟨m, hm, rfl⟩ := h
    obtain ⟨hd, he⟩ := decomposeCode_of_mem_decomposeCode hm
    have ht : (Char.ofNat m).toNat = m ∧ isHangulSyllable m = false := by
      rcases he with rfl | he
      · exact ⟨by rw [Char.ofNat_toNat], hc⟩
      · exact ⟨toNat_ofNat_of_mem he, not_isHangulSyllable_of_mem he⟩
    rw [decomposeChar_eq (ht.1.symm ▸ ht.2), ht.1, hd, List.map_singleton]

/-! ## Composition -/

/-- What the rule for Hangul composes: a consonant and a vowel, or a syllable of two and a consonant. -/
theorem composeHangul?_eq_some {a b : Nat} {d : Char} (h : composeHangul? a b = some d) :
    (∃ i j, i < 19 ∧ j < 21 ∧ a = 0x1100 + i ∧ b = 0x1161 + j ∧ d = Char.ofNat (0xAC00 + (i * 588 + j * 28))) ∨
      ∃ i k, i < 399 ∧ 0 < k ∧ k < 28 ∧ a = 0xAC00 + i * 28 ∧ b = 0x11A7 + k ∧
        d = Char.ofNat (0xAC00 + (i * 28 + k)) := by
  rw [composeHangul?] at h
  split at h
  · next hc =>
    refine .inl ⟨a - 0x1100, b - 0x1161, by omega, by omega, by omega, by omega, ?_⟩
    exact (Option.some.inj h).symm.trans (congrArg Char.ofNat (by omega))
  · split at h
    · next hc =>
      obtain ⟨hs, hm, hb⟩ := hc
      simp only [isHangulSyllable, Bool.and_eq_true, decide_eq_true_eq] at hs
      refine .inr ⟨(a - 0xAC00) / 28, b - 0x11A7, by omega, by omega, by omega, by omega, by omega, ?_⟩
      exact (Option.some.inj h).symm.trans (congrArg Char.ofNat (by omega))
    · simp at h

theorem composePair?_eq_some {a b d : Char} (h : composePair? a b = some d) :
    composeHangul? a.toNat b.toNat = some d ∨
      ∃ n, (n, a.toNat, b.toNat) ∈ compositions ∧ d = Char.ofNat n := by
  rw [composePair?] at h
  split at h
  · simp at h
  · split at h
    · next hh => exact .inl (hh.trans h)
    · obtain ⟨⟨n, p⟩, hf, hd⟩ := Option.map_eq_some_iff.1 h
      have hp := List.find?_some hf
      have hm := List.mem_of_find?_eq_some hf
      rw [decide_eq_true_eq] at hp
      subst hp
      exact .inr ⟨n, hm, hd.symm⟩

theorem isHangulSyllable_add {i : Nat} (h : i < 11172) : isHangulSyllable (0xAC00 + i) = true := by
  simp only [isHangulSyllable, Bool.and_eq_true, decide_eq_true_eq]
  omega

theorem toNat_hangul {i : Nat} (h : i < 11172) : (Char.ofNat (0xAC00 + i)).toNat = 0xAC00 + i :=
  toNat_ofNat (by omega)

theorem decomposeChar_hangul {i : Nat} (h : i < 11172) :
    decomposeChar (Char.ofNat (0xAC00 + i)) = decomposeHangul (0xAC00 + i) := by
  rw [decomposeChar, toNat_hangul h, if_neg (by omega), if_pos (isHangulSyllable_add h)]

/-- **A composite decomposes** as the first of its pair does, with the second behind it. -/
theorem decomposeChar_of_composePair? {a b d : Char} (h : composePair? a b = some d) :
    decomposeChar d = decomposeChar a ++ [b] := by
  rcases composePair?_eq_some h with hh | ⟨n, hm, rfl⟩
  · rcases composeHangul?_eq_some hh with ⟨i, j, hi, hj, ha, hb, rfl⟩ | ⟨i, k, hi, hk, hk', ha, hb, rfl⟩
    · rw [decomposeChar_hangul (by omega), decomposeHangul, Nat.add_sub_cancel_left]
      have h1 : (i * 588 + j * 28) / 588 = i := by omega
      have h2 : (i * 588 + j * 28) % 588 / 28 = j := by omega
      have h3 : (i * 588 + j * 28) % 28 = 0 := by omega
      have hca : Char.ofNat (0x1100 + i) = a := by rw [← ha, Char.ofNat_toNat]
      have hcb : Char.ofNat (0x1161 + j) = b := by rw [← hb, Char.ofNat_toNat]
      have hda : decomposeChar a = [a] := hca ▸ decomposeChar_jamo (by omega) (by omega)
      simp only [h1, h2, h3, hca, hcb, hda, if_true]
      rfl
    · have hca : Char.ofNat (0xAC00 + i * 28) = a := by rw [← ha, Char.ofNat_toNat]
      have hcb : Char.ofNat (0x11A7 + k) = b := by rw [← hb, Char.ofNat_toNat]
      rw [decomposeChar_hangul (by omega), ← hca, decomposeChar_hangul (by omega), decomposeHangul, decomposeHangul,
        Nat.add_sub_cancel_left, Nat.add_sub_cancel_left]
      have h1 : (i * 28 + k) / 588 = i * 28 / 588 := by omega
      have h2 : (i * 28 + k) % 588 / 28 = i * 28 % 588 / 28 := by omega
      have h3 : (i * 28 + k) % 28 = k := by omega
      have h4 : i * 28 % 28 = 0 := by omega
      have h5 : k ≠ 0 := by omega
      simp only [h1, h2, h3, h4, h5, hcb, if_true, if_false]
  · have hn : n ∈ composites := List.mem_map_of_mem hm
    have ha : a.toNat ∈ firsts := List.mem_map_of_mem hm
    have hn' : n ∈ composites ++ firsts ++ parts := List.mem_append_left _ (List.mem_append_left _ hn)
    have ha' : a.toNat ∈ composites ++ firsts ++ parts := List.mem_append_left _ (List.mem_append_right _ ha)
    have hnat := toNat_ofNat_of_mem hn'
    rw [decomposeChar_eq (hnat.symm ▸ not_isHangulSyllable_of_mem hn'), hnat,
      decomposeCode_of_mem compositions_layered hm, List.map_append, List.map_singleton, Char.ofNat_toNat,
      decomposeChar_eq (not_isHangulSyllable_of_mem ha')]

theorem composePair?_of_lt {a b : Char} (h : b.toNat < 0x300) : composePair? a b = none := by
  rw [composePair?, if_pos h]

/-! ## Word characters and white space -/

/-- The code points of the two and of the composite are in these ranges. -/
theorem inRanges_hangul {a b : Nat} {d : Char} (h : composeHangul? a b = some d) :
    inRanges hangulRanges a = true ∧ inRanges hangulRanges b = true ∧ inRanges hangulRanges d.toNat = true := by
  simp only [hangulRanges, inRanges_cons, Bool.or_eq_true, decide_eq_true_eq]
  rcases composeHangul?_eq_some h with ⟨i, j, hi, hj, rfl, rfl, rfl⟩ | ⟨i, k, hi, hk, hk', rfl, rfl, rfl⟩
  · rw [toNat_hangul (by omega)]
    omega
  · rw [toNat_hangul (by omega)]
    omega

theorem isWordChar_of_hangul {c : Char} (h : inRanges hangulRanges c.toNat = true) : isWordChar c = true := by
  rw [isWordChar_eq]
  exact testBit_wordSet (m := hangulSet) (by simp) ((testBit_rangeSet _ _).trans h)

theorem not_isWordChar_of_isBlank {c : Char} (h : isBlank c = true) : isWordChar c = false := by
  cases hw : isWordChar c with
  | false => rfl
  | true =>
    rw [isBlank_eq, testBit_blankSet (by simp) (isWordChar_eq c ▸ hw)] at h
    exact absurd h Bool.false_ne_true

/-- A mark is a word character. -/
theorem isWordChar_of_combiningClass {c : Char} (h : combiningClass c ≠ 0) : isWordChar c = true := by
  have hr : inRanges (combiningClasses.map (·.1)) c.toNat = true := by
    rw [combiningClass] at h
    split at h
    · exact absurd rfl h
    · split at h
      · next r k hf =>
        rw [inRanges, List.any_map, List.any_eq_true]
        exact ⟨_, List.mem_of_find?_eq_some hf, List.find?_some hf⟩
      · exact absurd rfl h
  rw [isWordChar_eq]
  exact testBit_wordSet (by simp) ((testBit_rangeSet _ _).trans hr)

theorem combiningClass_of_lt {c : Char} (h : c.toNat < 0x300) : combiningClass c = 0 := by
  rw [combiningClass, if_pos h]

/-- What composes with a character in front of it is a word character. -/
theorem isWordChar_second {a b d : Char} (h : composePair? a b = some d) : isWordChar b = true := by
  rcases composePair?_eq_some h with hh | ⟨n, hm, -⟩
  · exact isWordChar_of_hangul (inRanges_hangul hh).2.1
  · have hb : b.toNat ∈ seconds := List.mem_map_of_mem hm
    rw [isWordChar_eq]
    exact testBit_wordSet (by simp) ((testBit_codeSet _ _).2 hb)

/-- A composite is a word character if the first of its pair is one. -/
theorem isWordChar_composite {a b d : Char} (h : composePair? a b = some d) : isWordChar d = isWordChar a := by
  rcases composePair?_eq_some h with hh | ⟨n, hm, rfl⟩
  · rw [isWordChar_of_hangul (inRanges_hangul hh).1, isWordChar_of_hangul (inRanges_hangul hh).2.2]
  · have hn : n ∈ composites ++ firsts ++ parts :=
      List.mem_append_left _ (List.mem_append_left _ (List.mem_map_of_mem hm))
    rw [isWordChar_eq, isWordChar_eq, toNat_ofNat_of_mem hn]
    exact testBit_wordSet_composite hm

/-- White space is no composite. -/
theorem isBlank_composite {a b d : Char} (h : composePair? a b = some d) : isBlank d = false := by
  rw [isBlank_eq]
  rcases composePair?_eq_some h with hh | ⟨n, hm, rfl⟩
  · have hw := isWordChar_of_hangul (inRanges_hangul hh).2.2
    exact testBit_blankSet (by simp) (isWordChar_eq d ▸ hw)
  · have hn : n ∈ composites := List.mem_map_of_mem hm
    have hn' : n ∈ composites ++ firsts ++ parts := List.mem_append_left _ (List.mem_append_left _ hn)
    rw [toNat_ofNat_of_mem hn']
    exact testBit_blankSet (by simp) ((testBit_codeSet _ n).2 hn)

/-- A character that keeps apart from what follows it: white space, a brace, or a sign. -/
def isLoose (c : Char) : Bool := isBlank c || c ∈ ['+', '-', '\x7b', '\x7d']

/-- Such a character composes with nothing behind it. -/
theorem composePair?_of_isLoose {a b : Char} (h : isLoose a = true) : composePair? a b = none := by
  have ha : (blankSet ||| codeSet signs).testBit a.toNat = true := by
    rw [Nat.testBit_or, Bool.or_eq_true]
    simp only [isLoose, Bool.or_eq_true, decide_eq_true_eq, List.mem_cons, List.not_mem_nil, or_false] at h
    rcases h with h | h
    · exact .inl (isBlank_eq a ▸ h)
    · refine .inr ((testBit_codeSet _ _).2 ?_)
      rcases h with rfl | rfl | rfl | rfl <;> decide
  cases hp : composePair? a b with
  | none => rfl
  | some d =>
    have hn : (codeSet firsts ||| hangulSet).testBit a.toNat = true := by
      rw [Nat.testBit_or, Bool.or_eq_true]
      rcases composePair?_eq_some hp with hh | ⟨n, hm, -⟩
      · exact .inr ((testBit_rangeSet _ _).trans (inRanges_hangul hh).1)
      · exact .inl ((testBit_codeSet _ _).2 (List.mem_map_of_mem hm))
    rw [testBit_looseSet hn] at ha
    exact absurd ha Bool.false_ne_true

end Coursebook.Text
