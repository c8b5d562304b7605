/-
The square of a sum and its correction.

A false square begins at its bracket and holds no other one, so it is a
property of the text from there (`FalseAt`), and no two overlap: a text has
none counted if there is none at any place (`falseSquares_eq_zero_iff`).
After the correction there is none (`not_falseAt_correctSquares`), since the
cross term has no exponent where the second square would have to stand.
-/
import Mathlib.Data.List.Basic
import Coursebook.Integrity.Identity
import Coursebook.Proofs.Text.Ascii
import Coursebook.Proofs.Text.Pattern
import Coursebook.Proofs.Text.Search

namespace Coursebook

open Text (Step)
open Text.Step (readAll_cons readAll_append readAll_eq read_exactly)

namespace Identity

/-! ## The pattern -/

/-- A sign that goes on with a sum. -/
def isSign (c : Char) : Bool := c = '+' || c = '-'

/-- What the pattern reads between the bracket and the sign of equality. -/
def leftSteps : List Step :=
  [.blank, operand, .blank, char '+', .blank, operand, .blank, char ')', .blank] ++ squared ++ [.blank]

/-- What the pattern reads behind the sign of equality. -/
def rightSteps : List Step :=
  [.blank, operand, .blank] ++ squared ++ [.blank, char '+', .blank, operand, .blank] ++ squared

theorem squareOfSum_pattern : squareOfSum.pattern =
    char '(' :: ((leftSteps ++ char '=' :: rightSteps) ++ [.followedBy isSign]) := rfl

/-- What a square of a sum has to hold. -/
def Needed (c : Char) : Prop := Text.isAsciiAlphanumeric c = true ∨ c = ')' ∨ c = '+' ∨ c = '^' ∨ c = '='

/-- What it may hold. -/
def Optional (c : Char) : Prop := c = '\x7b' ∨ c = '\x7d'

theorem asks : ∀ step ∈ leftSteps ++ char '=' :: rightSteps, step.Asks Needed Optional := by
  have hop : operand.Asks Needed Optional := fun c hc => .inl hc
  have hch : ∀ {c}, Needed c → (char c).Asks Needed Optional := fun hc d hd => by rwa [List.mem_singleton.1 hd]
  have h2 : (char '2').Asks Needed Optional := hch (.inl (by decide))
  have hsq : ∀ step ∈ squared, step.Asks Needed Optional := by
    simp only [squared, List.forall_mem_cons]
    exact ⟨hch (.inr (.inr (.inr (.inl rfl)))), trivial, .inl rfl, trivial, h2, trivial, .inr rfl, by simp⟩
  have hplus : (char '+').Asks Needed Optional := hch (.inr (.inr (.inl rfl)))
  have hclose : (char ')').Asks Needed Optional := hch (.inr (.inl rfl))
  have heq : (char '=').Asks Needed Optional := hch (.inr (.inr (.inr (.inr rfl))))
  simp only [leftSteps, rightSteps, List.forall_mem_append, List.forall_mem_cons]
  exact ⟨⟨⟨⟨trivial, hop, trivial, hplus, trivial, hop, trivial, hclose, trivial, by simp⟩, hsq⟩, trivial, by simp⟩, heq,
    ⟨⟨⟨trivial, hop, trivial, by simp⟩, hsq⟩, trivial, hplus, trivial, hop, trivial, by simp⟩, hsq⟩

/-- What stands between the brackets and the signs is four operands. -/
theorem kept_eq {s r : Text} {kept : List Text} (h : Step.readAll (leftSteps ++ char '=' :: rightSteps) s = some (kept, r)) :
    ∃ a b c d, kept = [[a], [b], [c], [d]] ∧ ∀ x ∈ [a, b, c, d], Text.isAsciiAlphanumeric x = true := by
  have hq : ∀ p, Step.character p ∈ leftSteps ++ char '=' :: rightSteps → p = Text.isAsciiAlphanumeric := by
    intro p hp
    simp only [leftSteps, rightSteps, squared, char, operand, List.mem_append, List.mem_cons, List.not_mem_nil,
      or_false, reduceCtorEq, false_or, Step.character.injEq, or_self] at hp
    exact hp
  obtain ⟨cs, rfl, hcs, hlen⟩ := Step.kept_of_readAll asks hq h
  obtain ⟨a, b, c, d, rfl⟩ := List.length_eq_four.1 (hlen.trans rfl)
  exact ⟨a, b, c, d, rfl, hcs⟩

/-! ## False squares -/

/-- Whether the square of a sum is read behind its bracket, and is false. -/
def FalseTail (s : Text) : Prop :=
  ∃ a b c d r, Step.readAll (leftSteps ++ char '=' :: rightSteps) s = some ([[a], [b], [c], [d]], r) ∧
    samePair [a] [b] [c] [d] = true ∧ ∀ x ∈ (Text.trimStart r).head?, isSign x = false

/-- Whether a false square of a sum stands at the head of a text. -/
def FalseAt (s : Text) : Prop := ∃ t, s = '(' :: t ∧ FalseTail t

theorem read?_followedBy {p : Char → Bool} {s r : Text} {kept : List Text}
    (h : (Step.followedBy p).read s = some (kept, r)) :
    (∃ x t, Text.trimStart s = x :: t ∧ p x = true ∧ kept = [Text.leadingBlank s ++ [x]] ∧ r = t) ∨
      (∀ x ∈ (Text.trimStart s).head?, p x = false) ∧ kept = [[]] ∧ r = s := by
  rw [Step.read] at h
  split at h
  · next x t ht =>
    split at h
    · next hx =>
      obtain ⟨rfl, rfl⟩ := Prod.mk.inj (Option.some.inj h)
      exact .inl ⟨x, _, ht, hx, rfl, rfl⟩
    · next hx =>
      obtain ⟨rfl, rfl⟩ := Prod.mk.inj (Option.some.inj h)
      refine .inr ⟨fun y hy => ?_, rfl, rfl⟩
      rw [ht] at hy
      cases hy
      simpa using hx
  · next ht =>
    obtain ⟨rfl, rfl⟩ := Prod.mk.inj (Option.some.inj h)
    exact .inr ⟨by simp [ht], rfl, rfl⟩

/-- What the pattern of the square of a sum reads. -/
theorem read?_squareOfSum {s r : Text} {kept : List Text} (h : squareOfSum.read? s = some (kept, r)) :
    ∃ t a b c d r' sign, s = '(' :: t ∧ kept = [[a], [b], [c], [d], sign] ∧
      Step.readAll (leftSteps ++ char '=' :: rightSteps) t = some ([[a], [b], [c], [d]], r') ∧
      (Step.followedBy isSign).read r' = some ([sign], r) := by
  rw [read?, squareOfSum_pattern] at h
  obtain ⟨k, t, k', h1, h2, rfl⟩ := readAll_cons.1 h
  obtain ⟨rfl, rfl⟩ := read_exactly.1 h1
  obtain ⟨k1, r', k2, hbody, hlast, rfl⟩ := readAll_append.1 h2
  obtain ⟨a, b, c, d, rfl, -⟩ := kept_eq hbody
  obtain ⟨k3, r'', k4, hsign, hnil, rfl⟩ := readAll_cons.1 hlast
  obtain ⟨rfl, rfl⟩ := Prod.mk.inj (Option.some.inj hnil)
  rw [List.append_nil]
  rcases read?_followedBy hsign with ⟨x, u, -, -, rfl, -⟩ | ⟨-, rfl, -⟩
  · exact ⟨t, a, b, c, d, r', _, rfl, rfl, hbody, hsign⟩
  · exact ⟨t, a, b, c, d, r', [], rfl, rfl, hbody, hsign⟩

/-- What is read is counted exactly if it is a false square. -/
theorem isFalse_iff {s r : Text} {kept : List Text} (h : squareOfSum.read? s = some (kept, r)) :
    squareOfSum.isFalse kept = true ↔ FalseAt s := by
  obtain ⟨t, a, b, c, d, r', sign, rfl, rfl, hbody, hsign⟩ := read?_squareOfSum h
  have hf : squareOfSum.isFalse [[a], [b], [c], [d], sign] = (samePair [a] [b] [c] [d] && decide (sign = [])) := rfl
  rw [hf, Bool.and_eq_true, decide_eq_true_eq]
  constructor
  · rintro ⟨hp, rfl⟩
    refine ⟨t, rfl, a, b, c, d, r', hbody, hp, ?_⟩
    rcases read?_followedBy hsign with ⟨x, u, -, -, he, -⟩ | ⟨hno, -, -⟩
    · simp at he
    · exact hno
  · rintro ⟨t', he, a', b', c', d', r'', hbody', hp, hno⟩
    obtain ⟨-, rfl⟩ := List.cons.inj he
    rw [hbody, Option.some.injEq, Prod.mk.injEq] at hbody'
    obtain ⟨hk, rfl⟩ := hbody'
    simp only [List.cons.injEq, and_true] at hk
    obtain ⟨rfl, rfl, rfl, rfl⟩ := hk
    refine ⟨hp, ?_⟩
    rcases read?_followedBy hsign with ⟨x, u, ht, hx, -, -⟩ | ⟨-, he, -⟩
    · rw [hno x (by rw [ht]; rfl)] at hx
      exact Bool.noConfusion hx
    · simpa using he

theorem FalseAt.read? {s : Text} (h : FalseAt s) : ∃ kept r, squareOfSum.read? s = some (kept, r) := by
  obtain ⟨t, rfl, a, b, c, d, r, hbody, -, hno⟩ := h
  have hsign : (Step.followedBy isSign).read r = some ([[]], r) := by
    rw [Step.read]
    split
    · next x u hu =>
      rw [if_neg]
      rw [hno x (by rw [hu]; rfl)]
      simp
    · rfl
  refine ⟨[[a], [b], [c], [d]] ++ [[]], r, ?_⟩
  rw [Identity.read?, squareOfSum_pattern]
  refine readAll_cons.2 ⟨[], t, _, read_exactly.2 ⟨rfl, rfl⟩, ?_, rfl⟩
  exact readAll_append.2 ⟨_, r, _, hbody, readAll_cons.2 ⟨_, r, [], hsign, rfl, rfl⟩, rfl⟩

/-- What mirrors a false square is one, if it goes on with a sign where that does. -/
theorem FalseTail.mirror {R : Text → Text → Prop} (hm : Step.Mirror Needed Optional R)
    (hsign : ∀ {s s'}, R s s' → ∀ x ∈ s.head?, isSign x = true → x ∈ s'.head?) {s s' : Text} (hR : R s s')
    (h : FalseTail s') : FalseTail s := by
  obtain ⟨a, b, c, d, r', hbody, hp, hno⟩ := h
  obtain ⟨r, hr, hRr⟩ := hm.readAll asks hR hbody
  refine ⟨a, b, c, d, r, hr, hp, fun x hx => ?_⟩
  cases hs : isSign x with
  | false => rfl
  | true => rw [← hs]; exact hno x (hsign (hm.blank hRr) x hx hs)

/-! ## Where false squares stand -/

theorem not_takes_bracket : ∀ step ∈ (leftSteps ++ char '=' :: rightSteps) ++ [Step.followedBy isSign],
    step.takes '(' = false := by
  simp only [leftSteps, rightSteps, squared, char, operand, List.forall_mem_append, List.forall_mem_cons]
  decide

theorem taken_of_read? {s r : Text} {kept : List Text} (h : squareOfSum.read? s = some (kept, r)) :
    ∃ w, s = '(' :: (w ++ r) ∧
      ∀ c ∈ w, ∃ step ∈ (leftSteps ++ char '=' :: rightSteps) ++ [Step.followedBy isSign], step.takes c = true := by
  rw [read?, squareOfSum_pattern] at h
  obtain ⟨k, t, k', h1, h2, rfl⟩ := readAll_cons.1 h
  obtain ⟨rfl, rfl⟩ := read_exactly.1 h1
  obtain ⟨w, rfl, hw⟩ := readAll_eq h2
  exact ⟨w, rfl, hw⟩

/-- A square of a sum holds no bracket but its own. -/
theorem eq_of_read? {s r : Text} {kept : List Text} (h : squareOfSum.read? s = some (kept, r)) :
    ∃ w, s = '(' :: (w ++ r) ∧ '(' ∉ w := by
  obtain ⟨w, rfl, hw⟩ := taken_of_read? h
  refine ⟨w, rfl, fun hm => ?_⟩
  obtain ⟨step, hs, ht⟩ := hw _ hm
  rw [not_takes_bracket step hs] at ht
  exact Bool.noConfusion ht

theorem suffix_of_read? {c : Char} {s r : Text} {kept : List Text} (h : squareOfSum.read? (c :: s) = some (kept, r)) :
    r <:+ s := by
  obtain ⟨w, he, -⟩ := eq_of_read? h
  rw [(List.cons.inj he).2]
  exact List.suffix_append w r

/-- Behind its bracket no square stands in a square. -/
theorem falseAt_of_suffix {w r t : Text} (hw : '(' ∉ w) (hf : FalseAt t) (ht : t <:+ w ++ r) : t <:+ r := by
  induction w with
  | nil => exact ht
  | cons c w ih =>
    rw [List.mem_cons, not_or] at hw
    rcases List.suffix_cons_iff.1 ht with rfl | ht
    · obtain ⟨u, he, -⟩ := hf
      exact absurd (List.cons.inj he).1.symm hw.1
    · exact ih hw.2 ht

/-- What is found in a text are the stretches that the pattern reads, without those that are not false. -/
theorem findAll_eq (i : Identity) (s : Text) :
    i.findAll s = (((Text.findAll i.read? s).map fun m => (m.value, Text.slice s m.start m.stop)).filter
      fun m => i.isFalse m.1).map fun m => Text.trimEnd m.2 := by
  rw [findAll, List.filter_map, List.map_map]
  rfl

/-- **No false square is counted if none stands anywhere.** -/
theorem falseSquares_eq_zero_iff (s : Text) : falseSquares s = 0 ↔ ∀ t, t <:+ s → ¬FalseAt t := by
  rw [falseSquares, findAll_eq, List.length_map, List.length_eq_zero_iff]
  refine Text.findAll_induct (Q := fun s l => l.filter (fun m => squareOfSum.isFalse m.1) = [] ↔ ∀ t, t <:+ s → ¬FalseAt t)
    ?nil ?skip ?found suffix_of_read? s
  case nil =>
    simp only [List.filter_nil, List.suffix_nil, forall_eq, true_iff]
    rintro ⟨t, he, -⟩
    exact List.cons_ne_nil _ _ he.symm
  case skip =>
    intro c s l h ih
    have hno : ¬FalseAt (c :: s) := by
      intro hf
      obtain ⟨kept, r, hr⟩ := hf.read?
      rw [h] at hr
      exact absurd hr (by simp)
    rw [ih]
    constructor
    · intro hall t ht
      rcases List.suffix_cons_iff.1 ht with rfl | ht
      · exact hno
      · exact hall t ht
    · exact fun hall t ht => hall t (ht.trans (List.suffix_cons c s))
  case found =>
    intro c w r kept l h ih
    obtain ⟨w', he, hw⟩ := eq_of_read? h
    obtain ⟨rfl, happ⟩ := List.cons.inj he
    obtain rfl := List.append_cancel_right happ
    rw [List.filter_cons]
    constructor
    · intro hnil t ht hf
      split at hnil
      · exact List.cons_ne_nil _ _ hnil
      · next hkept =>
        rcases List.suffix_cons_iff.1 ht with rfl | ht
        · exact hkept ((isFalse_iff h).2 hf)
        · exact ih.1 hnil t (falseAt_of_suffix hw hf ht) hf
    · intro hall
      rw [if_neg fun hkept => hall _ List.suffix_rfl ((isFalse_iff h).1 hkept)]
      exact ih.2 fun t ht => hall t ((ht.trans (List.suffix_append w r)).trans (List.suffix_cons _ _))

/-! ## The correction -/

/-- What stands behind the sign of equality in a corrected square. -/
def rightSide (a b : Char) : Text :=
  [' ', a, '^', '2', ' ', '+', ' '] ++ crossTerm [a] [b] ++ [' ', '+', ' ', b, '^', '2']

theorem not_takes_eq : ∀ step ∈ leftSteps, step.takes '=' = false := by
  simp only [leftSteps, squared, char, operand, List.forall_mem_append, List.forall_mem_cons]
  decide

/-- An exponent ends with its digit, with white space, or with a brace. -/
theorem exponent_eq {s r : Text} {kept : List Text}
    (h : Step.readAll [char '2', .blank, .maybe '\x7d'] s = some (kept, r)) :
    ∃ y l, s = y ++ l :: r ∧ (l = '2' ∨ Text.isBlank l = true ∨ l = '\x7d') := by
  obtain ⟨k, s1, k', h1, h2, -⟩ := readAll_cons.1 h
  obtain ⟨-, rfl⟩ := read_exactly.1 h1
  obtain ⟨k2, s2, k3, hblank, h3, -⟩ := readAll_cons.1 h2
  obtain ⟨-, rfl⟩ := Prod.mk.inj (Option.some.inj hblank)
  obtain ⟨k4, s4, k5, hbrace, hnil, -⟩ := readAll_cons.1 h3
  obtain ⟨-, rfl⟩ := Prod.mk.inj (Option.some.inj hbrace)
  obtain ⟨-, rfl⟩ := Prod.mk.inj (Option.some.inj hnil)
  rw [← Text.skip]
  have hcut : s1 = s1.takeWhile Text.isBlank ++ Text.trimStart s1 := List.takeWhile_append_dropWhile.symm
  have hall := List.all_eq_true.1 (List.all_takeWhile (p := Text.isBlank) (l := s1))
  generalize s1.takeWhile Text.isBlank = w at hcut hall
  by_cases hb : (Text.trimStart s1).head? = some '\x7d'
  · obtain ⟨t, ht⟩ := List.head?_eq_some_iff.1 hb
    rw [ht] at hcut ⊢
    rw [Text.skip_cons_self]
    exact ⟨'2' :: w, '\x7d', by rw [hcut]; rfl, .inr (.inr rfl)⟩
  · rw [Text.skip_of_ne hb]
    rcases List.eq_nil_or_concat w with rfl | ⟨w, l, rfl⟩
    · exact ⟨[], '2', by rw [List.nil_append] at hcut; rw [← hcut]; rfl, .inl rfl⟩
    · refine ⟨'2' :: w, l, ?_, .inr (.inl (hall l (by simp)))⟩
      rw [List.concat_eq_append, List.append_assoc] at hcut
      rw [List.cons_append]
      exact congrArg ('2' :: ·) hcut

theorem rightSteps_eq : ∃ front, rightSteps = front ++ [char '2', .blank, .maybe '\x7d'] :=
  ⟨[.blank, operand, .blank] ++ squared ++ [.blank, char '+', .blank, operand, .blank] ++
    [char '^', .blank, .maybe '\x7b', .blank], rfl⟩

/-- A square that is read is parted by its sign of equality. -/
theorem parts_of_readAll {t r : Text} {kept : List Text}
    (h : Step.readAll (leftSteps ++ char '=' :: rightSteps) t = some (kept, r)) :
    ∃ u y l, t = u ++ '=' :: (y ++ l :: r) ∧ '=' ∉ u ∧ (l = '2' ∨ Text.isBlank l = true ∨ l = '\x7d') := by
  obtain ⟨k, s1, k', hleft, h2, -⟩ := readAll_append.1 h
  obtain ⟨k1, s2, k2, heq, hright, -⟩ := readAll_cons.1 h2
  obtain ⟨-, rfl⟩ := read_exactly.1 heq
  obtain ⟨u, rfl, hu⟩ := readAll_eq hleft
  obtain ⟨front, hf⟩ := rightSteps_eq
  rw [hf] at hright
  obtain ⟨k3, s3, k4, hfront, hend, -⟩ := readAll_append.1 hright
  obtain ⟨x, rfl, -⟩ := readAll_eq hfront
  obtain ⟨y, l, rfl, hl⟩ := exponent_eq hend
  refine ⟨u, x ++ y, l, by simp, fun hm => ?_, hl⟩
  obtain ⟨step, hs, ht⟩ := hu _ hm
  rw [not_takes_eq step hs] at ht
  exact Bool.noConfusion ht

/-- A stretch without a character ends in front of it. -/
theorem closed_ne {x : Char} {u : Text} (hu : x ∉ u) (v : Text) :
    (u ++ x :: v).dropWhile (· ≠ x) = x :: v ∧ (u ++ x :: v).takeWhile (· ≠ x) = u :=
  (Text.closed_iff (by simp)).2 ⟨rfl, fun _ hc => decide_eq_true fun he => hu (he ▸ hc)⟩

/-- What the correction makes of a square that is read: it stays if it is not false, and otherwise gets
another right side. -/
theorem corrected?_of_read? {s r : Text} {kept : List Text} (h : squareOfSum.read? s = some (kept, r)) :
    ∃ w, s = '(' :: (w ++ r) ∧ '(' ∉ w ∧
      (¬FalseAt s ∧ corrected? s = some ('(' :: w, r) ∨
        FalseAt s ∧ ∃ u y l a b, w = u ++ '=' :: (y ++ [l]) ∧ '=' ∉ u ∧
          (l = '2' ∨ Text.isBlank l = true ∨ l = '\x7d') ∧ (∀ x ∈ [a, b], Text.isAsciiAlphanumeric x = true) ∧
          corrected? s = some ('(' :: (u ++ '=' :: rightSide a b), r)) := by
  obtain ⟨w, hs, hw⟩ := eq_of_read? h
  obtain ⟨t, a, b, c, d, r', sign, ht, rfl, hbody, hsign⟩ := read?_squareOfSum h
  obtain ⟨-, rfl⟩ := List.cons.inj (ht.symm.trans hs)
  have hwhole : s.take (s.length - r.length) = '(' :: w := by
    rw [hs, ← List.cons_append]
    exact List.take_left' (by simp only [List.length_cons, List.length_append]; omega)
  refine ⟨w, hs, hw, ?_⟩
  by_cases hf : squareOfSum.isFalse [[a], [b], [c], [d], sign] = true
  · have hfalse := (isFalse_iff h).1 hf
    obtain ⟨a', b', c', d', hkept, halnum⟩ := kept_eq hbody
    simp only [List.cons.injEq, and_true] at hkept
    obtain ⟨rfl, rfl, rfl, rfl⟩ := hkept
    have hr : r = r' := by
      rcases read?_followedBy hsign with ⟨x, u, hx, hxs, -, -⟩ | ⟨-, -, hr⟩
      · obtain ⟨t', he, a', b', c', d', r'', hbody', -, hno⟩ := hfalse
        obtain ⟨-, rfl⟩ := List.cons.inj (ht.symm.trans he)
        rw [hbody, Option.some.injEq, Prod.mk.injEq] at hbody'
        obtain ⟨-, rfl⟩ := hbody'
        rw [hno x (by rw [hx]; rfl)] at hxs
        exact Bool.noConfusion hxs
      · exact hr
    subst hr
    obtain ⟨u, y, l, hparts, hu, hl⟩ := parts_of_readAll hbody
    have hwparts : w = u ++ '=' :: (y ++ [l]) := by
      have happ : w ++ r = u ++ '=' :: (y ++ [l]) ++ r := by simpa using hparts
      exact List.append_cancel_right happ
    refine .inr ⟨hfalse, u, y, l, a, b, hwparts, hu, hl, fun x hx => halnum x (List.mem_append_left [c, d] hx), ?_⟩
    have hleft : ('(' :: w).takeWhile (· ≠ '=') = '(' :: u := by
      rw [hwparts, ← List.cons_append]
      exact (closed_ne (by simpa using hu) _).2
    rw [corrected?, h]
    simp only [Option.bind_eq_bind, Option.bind_some, hf, if_true, hwhole, hleft, Option.pure_def, rightSide]
    simp
  · refine .inl ⟨fun hfalse => hf ((isFalse_iff h).2 hfalse), ?_⟩
    rw [corrected?, h]
    simp only [Option.bind_eq_bind, Option.bind_some, hf, hwhole]
    rfl

theorem corrected?_eq_none_iff {s : Text} : corrected? s = none ↔ squareOfSum.read? s = none := by
  constructor
  · intro h
    cases hr : squareOfSum.read? s with
    | none => rfl
    | some p =>
      obtain ⟨w, -, -, ⟨-, hc⟩ | ⟨-, u, y, l, a, b, -, -, -, -, hc⟩⟩ := corrected?_of_read? hr
      · exact absurd (h.symm.trans hc) (by simp)
      · exact absurd (h.symm.trans hc) (by simp)
  · intro h
    rw [corrected?, h]
    rfl

theorem of_corrected? {s out r : Text} (h : corrected? s = some (out, r)) :
    ∃ w, s = '(' :: (w ++ r) ∧ '(' ∉ w ∧
      (¬FalseAt s ∧ out = '(' :: w ∨
        FalseAt s ∧ ∃ u y l a b, w = u ++ '=' :: (y ++ [l]) ∧ '=' ∉ u ∧
          (l = '2' ∨ Text.isBlank l = true ∨ l = '\x7d') ∧ (∀ x ∈ [a, b], Text.isAsciiAlphanumeric x = true) ∧
          out = '(' :: (u ++ '=' :: rightSide a b)) := by
  cases hr : squareOfSum.read? s with
  | none => exact absurd (h.symm.trans (corrected?_eq_none_iff.2 hr)) (by simp)
  | some p =>
    obtain ⟨kept, r'⟩ := p
    obtain ⟨w, hs, hw, ⟨hf, hc⟩ | ⟨hf, u, y, l, a, b, hparts, hu, hl, hab, hc⟩⟩ := corrected?_of_read? hr
    · obtain ⟨rfl, rfl⟩ := Prod.mk.inj (Option.some.inj (h.symm.trans hc))
      exact ⟨w, hs, hw, .inl ⟨hf, rfl⟩⟩
    · obtain ⟨rfl, rfl⟩ := Prod.mk.inj (Option.some.inj (h.symm.trans hc))
      exact ⟨w, hs, hw, .inr ⟨hf, u, y, l, a, b, hparts, hu, hl, hab, rfl⟩⟩

/-- The correction goes from left to right: what is read as no square stays, and so does a square that is
not false; a false one gets another right side. -/
theorem correctSquares_induct (Q : Text → Text → Prop) (nil : Q [] [])
    (keep : ∀ {c s}, squareOfSum.read? (c :: s) = none → Q s (correctSquares s) → Q (c :: s) (c :: correctSquares s))
    (stay : ∀ {w r}, '(' ∉ w → ¬FalseAt ('(' :: (w ++ r)) → Q r (correctSquares r) →
      Q ('(' :: (w ++ r)) ('(' :: (w ++ correctSquares r)))
    (correct : ∀ {u y r l a b}, '(' ∉ u → '=' ∉ u → FalseAt ('(' :: (u ++ '=' :: (y ++ l :: r))) →
      (l = '2' ∨ Text.isBlank l = true ∨ l = '\x7d') → (∀ x ∈ [a, b], Text.isAsciiAlphanumeric x = true) →
      Q r (correctSquares r) →
      Q ('(' :: (u ++ '=' :: (y ++ l :: r))) ('(' :: (u ++ '=' :: (rightSide a b ++ correctSquares r))))
    (s : Text) : Q s (correctSquares s) := by
  refine Text.replaceMatches_induct nil (fun {c s} h hQ => ?_) (fun {c s out r} h hQ => ?_) (fun {c s out r} h => ?_) s
  · exact keep (corrected?_eq_none_iff.1 h) hQ
  · obtain ⟨w, hs, hw, ⟨hf, rfl⟩ | ⟨hf, u, y, l, a, b, rfl, hu, hl, hab, rfl⟩⟩ := of_corrected? h
    · rw [hs] at hf ⊢
      exact stay hw hf hQ
    · have happ : u ++ '=' :: (y ++ [l]) ++ r = u ++ '=' :: (y ++ l :: r) := by simp
      rw [hs, happ] at hf ⊢
      rw [List.mem_append, not_or] at hw
      have := correct hw.1 hu hf hl hab hQ
      simpa [correctSquares] using this
  · obtain ⟨w, hs, -⟩ := of_corrected? h
    rw [(List.cons.inj hs).2, List.length_append]
    omega

/-- Up to the next bracket the correction changes nothing. -/
theorem twin_correctSquares (s : Text) : Text.Twin '(' s (correctSquares s) := by
  refine correctSquares_induct (Text.Twin '(') (.inl rfl) (fun {c s} _ h => h.append [c]) (fun {w r} _ _ h => ?_)
    (fun {u y r l a b} _ _ _ _ _ _ => .inr ⟨[], _, _, rfl, rfl⟩) s
  exact h.append ('(' :: w)

theorem not_needed_bracket : ¬Needed '(' := by
  rintro (h | h | h | h | h)
  · exact absurd h (by decide)
  all_goals exact absurd h (by decide)

theorem FalseTail.twin {s s' : Text} (h : Text.Twin '(' s s') (hf : FalseTail s') : FalseTail s := by
  have hm : Step.Mirror Needed Optional (Text.Twin '(') :=
    Text.Twin.mirror not_needed_bracket (by simp [Optional]) (by decide)
  exact hf.mirror hm (fun hR x hx _ => hR.head?_eq ▸ hx) h

theorem eq_of_append_cons {x : Char} {u u' v v' : Text} (h : u ++ x :: v = u' ++ x :: v') (hu : x ∉ u) (hu' : x ∉ u') :
    u = u' ∧ v = v' := by
  have he := congrArg (List.takeWhile (· ≠ x)) h
  rw [(closed_ne hu _).2, (closed_ne hu' _).2] at he
  subst he
  exact ⟨rfl, (List.cons.inj (List.append_cancel_left h)).2⟩

/-- Behind the cross term there is no exponent. -/
theorem readAll_rightSide {a b : Char} (h : ∀ x ∈ [a, b], Text.isAsciiAlphanumeric x = true) (s : Text) :
    Step.readAll rightSteps (rightSide a b ++ s) = none := by
  have ha := h a (by simp)
  have hab := Text.isBlank_of_alphanumeric ha
  have hne : a ≠ '^' := Text.ne_of_alphanumeric ha (by decide)
  have hs1 : Text.isBlank ' ' = true := by decide
  have hs2 : Text.isBlank '^' = false := by decide
  have hs3 : Text.isBlank '2' = false := by decide
  have hs4 : Text.isBlank '+' = false := by decide
  have hs5 : Text.isBlank '\\' = false := by decide
  have hs6 : Text.isAsciiAlphanumeric '2' = true := by decide
  rw [rightSide, crossTerm]
  split
  · simp [rightSteps, squared, char, operand, Step.readAll, Step.read, Text.trimStart, Text.after?, ha, hab, hs1, hs2,
      hs3, hs4, hs6, Ne.symm hne]
  · simp [rightSteps, squared, char, operand, Step.readAll, Step.read, Text.trimStart, Text.after?, ha, hab, hs1, hs2,
      hs3, hs4, hs5, hs6]

theorem not_falseTail_rightSide {u : Text} (hu : '=' ∉ u) {a b : Char}
    (h : ∀ x ∈ [a, b], Text.isAsciiAlphanumeric x = true) (s : Text) : ¬FalseTail (u ++ '=' :: (rightSide a b ++ s)) := by
  rintro ⟨a', b', c', d', r, hbody, -, -⟩
  obtain ⟨k, s1, k', hleft, h2, -⟩ := readAll_append.1 hbody
  obtain ⟨k1, s2, k2, heq, hright, -⟩ := readAll_cons.1 h2
  obtain ⟨-, rfl⟩ := read_exactly.1 heq
  obtain ⟨u', hcut, hu'⟩ := readAll_eq hleft
  have hmem : '=' ∉ u' := by
    intro hm
    obtain ⟨step, hs, ht⟩ := hu' _ hm
    rw [not_takes_eq step hs] at ht
    exact Bool.noConfusion ht
  obtain ⟨-, rfl⟩ := eq_of_append_cons hcut hu hmem
  rw [readAll_rightSide h s] at hright
  exact absurd hright (by simp)

theorem not_mem_rightSide {a b : Char} (h : ∀ x ∈ [a, b], Text.isAsciiAlphanumeric x = true) : '(' ∉ rightSide a b := by
  have ha : a ≠ '(' := Text.ne_of_alphanumeric (h a (by simp)) (by decide)
  have hb : b ≠ '(' := Text.ne_of_alphanumeric (h b (by simp)) (by decide)
  rw [rightSide, crossTerm]
  split <;> simp [Ne.symm ha, Ne.symm hb]

/-- **After the correction no false square stands anywhere.** -/
theorem not_falseAt_correctSquares (s : Text) : ∀ t, t <:+ correctSquares s → ¬FalseAt t := by
  refine correctSquares_induct (fun _ o => ∀ t, t <:+ o → ¬FalseAt t) ?_ (fun {c s} hno ih => ?_)
    (fun {w r} hw hf ih => ?_) (fun {u y r l a b} hw hu _ _ hab ih => ?_) s
  · rintro t ht ⟨u, rfl, -⟩
    simp at ht
  · intro t ht hf
    rcases List.suffix_cons_iff.1 ht with rfl | ht
    · obtain ⟨u, he, htail⟩ := hf
      obtain ⟨rfl, rfl⟩ := List.cons.inj he
      obtain ⟨kept, r, hr⟩ := FalseAt.read? ⟨s, rfl, htail.twin (twin_correctSquares s)⟩
      rw [hno] at hr
      exact absurd hr (by simp)
    · exact ih t ht hf
  · intro t ht hf'
    rcases List.suffix_cons_iff.1 ht with rfl | ht
    · obtain ⟨u, he, htail⟩ := hf'
      obtain ⟨-, rfl⟩ := List.cons.inj he
      exact hf ⟨w ++ r, rfl, htail.twin ((twin_correctSquares r).append w)⟩
    · exact ih t (falseAt_of_suffix hw hf' ht) hf'
  · intro t ht hf
    rcases List.suffix_cons_iff.1 ht with rfl | ht
    · obtain ⟨v, he, htail⟩ := hf
      obtain ⟨-, rfl⟩ := List.cons.inj he
      exact not_falseTail_rightSide hu hab _ htail
    · have hno : '(' ∉ u ++ '=' :: rightSide a b := by
        rw [List.mem_append, List.mem_cons, not_or, not_or]
        exact ⟨hw, by decide, not_mem_rightSide hab⟩
      refine ih t (falseAt_of_suffix hno hf ?_) hf
      simpa using ht

/-- A text without false squares stays as it is. -/
theorem correctSquares_eq_self {s : Text} (h : ∀ t, t <:+ s → ¬FalseAt t) : correctSquares s = s := by
  revert h
  refine correctSquares_induct (fun s o => (∀ t, t <:+ s → ¬FalseAt t) → o = s) (fun _ => rfl)
    (fun {c s} _ ih h => ?_) (fun {w r} _ _ ih h => ?_)
    (fun {u y r l a b} _ _ hf _ _ _ h => absurd hf (h _ List.suffix_rfl)) s
  · rw [ih fun t ht => h t (ht.trans (List.suffix_cons c s))]
  · rw [ih fun t ht => h t ((ht.trans (List.suffix_append w r)).trans (List.suffix_cons _ _))]

theorem toNat_lt_of_mem_rightSide {a b : Char} (h : ∀ x ∈ [a, b], Text.isAsciiAlphanumeric x = true) :
    ∀ c ∈ rightSide a b, c.toNat < 0x80 := by
  have ha := Text.toNat_lt_of_alphanumeric (h a (by simp))
  have hb := Text.toNat_lt_of_alphanumeric (h b (by simp))
  rw [rightSide, crossTerm]
  split <;> simp [ha, hb]

/-- What the correction writes is ASCII. -/
theorem forall_mem_correctSquares {P : Char → Prop} (hP : ∀ c, c.toNat < 0x80 → P c) {s : Text} (h : ∀ c ∈ s, P c) :
    ∀ c ∈ correctSquares s, P c := by
  revert h
  refine correctSquares_induct (fun s o => (∀ c ∈ s, P c) → ∀ c ∈ o, P c) (fun h => h) (fun {c s} _ ih h => ?_)
    (fun {w r} _ _ ih h => ?_) (fun {u y r l a b} _ _ _ _ hab ih h => ?_) s
  · rw [List.forall_mem_cons] at h ⊢
    exact ⟨h.1, ih h.2⟩
  · rw [List.forall_mem_cons, List.forall_mem_append] at h ⊢
    exact ⟨h.1, h.2.1, ih h.2.2⟩
  · rw [List.forall_mem_cons, List.forall_mem_append, List.forall_mem_cons, List.forall_mem_append,
      List.forall_mem_cons] at h
    rw [List.forall_mem_cons, List.forall_mem_append, List.forall_mem_cons, List.forall_mem_append]
    exact ⟨h.1, h.2.1, h.2.2.1, fun c hc => hP c (toNat_lt_of_mem_rightSide hab c hc), ih h.2.2.2.2.2⟩

end Identity

end Coursebook
