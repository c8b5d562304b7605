/-
The damage that five entries of the catalogue describe, and whether their
repair undoes it. `Escape.damage` takes the backslash and the first letter
of each listed control word for an escape sequence and writes the control
character instead, as a reader of quoted text does.

`repair_damage_iff` says when the repair gives the text back: always for
the entries that do not ask for the end of a word; for the others exactly
when no listed control word has a word character behind it. A control word
of TeX ends in front of a digit or an underscore, a word does not, so the
subscript in `\theta_1` keeps that entry from seeing the damage
(`repair_damage_subscript`).
-/
import Coursebook.Proofs.Integrity.Entry
import Coursebook.Proofs.Text.Ascii

namespace Coursebook.Corruption

/-- An escape sequence: its letter, the character it stands for, and the control words, without that
letter, that may be taken for it. With `whole` the damage is seen at the end of a word only. -/
structure Escape where
  name : String
  control : Char
  letter : Char
  whole : Bool
  words : List String
deriving Repr, DecidableEq

/-- The escape sequences of the catalogue. -/
def escapes : List Escape :=
  [⟨"form-feed-escape", '\x0c', 'f', false, ["rac", "orall"]⟩,
    ⟨"tab-escape", '\t', 't', true, ["imes", "extbf", "extit", "ext", "heta", "frac"]⟩,
    ⟨"backspace-escape", '\x08', 'b', false, ["eta", "ar", "egin", "oxed", "inom"]⟩,
    ⟨"carriage-return-escape", '\r', 'r', true, ["ightarrow", "ho", "ight", "angle"]⟩,
    ⟨"newline-escape", '\n', 'n', true, ["eq", "abla", "otin"]⟩]

/-- Whether a text goes on with a letter. -/
def startsWithLetter (s : Text) : Bool := s.head?.any Text.isAsciiLetter

namespace Escape

/-- The entry for an escape sequence. -/
def corruption (x : Escape) : Corruption := ofControl x.name x.control x.letter x.whole x.words

/-- Whether one of the control words is the one whose name starts at the head of a text. -/
def isWord (x : Escape) (s : Text) : Bool :=
  x.words.any fun w => (Text.after? (x.letter :: w.toList) s).any fun r => !startsWithLetter r

/-- A text, behind the character `before`, with the control character in place of the backslash and
the first letter of each control word that the entry lists. A backslash behind a backslash starts
no control word. -/
def damage (x : Escape) : Option Char → Text → Text
  | _, [] => []
  | _, [c] => [c]
  | before, c :: d :: s =>
    if c = '\\' ∧ before ≠ some '\\' ∧ x.isWord (d :: s) then x.control :: damage x (some d) s
    else c :: damage x (some c) (d :: s)

/-- A listed control word of a text behind `before`: `a` in front of it, `w` the rest of its name,
and `r` what follows. -/
structure Listed (x : Escape) (before : Option Char) (t a w r : Text) : Prop where
  eq : t = a ++ '\\' :: x.letter :: (w ++ r)
  notEscaped : lastOf before a ≠ some '\\'
  listed : w ∈ x.words.map String.toList
  ends : startsWithLetter r = false

end Escape

/-- The entries for escape sequences are five of the catalogue's eight. -/
theorem catalogue_eq : catalogue =
    replacementCharacter :: escapes.map Escape.corruption ++ [bareFraction, doubledBackslash] := rfl

/-! ## Letters -/

/-- The names are letters, and the control character is no part of a word. -/
structure Escape.Proper (x : Escape) : Prop where
  letters : ∀ w ∈ x.words, ∀ c ∈ w.toList, Text.isAsciiLetter c = true
  letter : Text.isAsciiLetter x.letter = true
  control : Text.isWordChar x.control = false
  controlLetter : Text.isAsciiLetter x.control = false
  controlBackslash : x.control ≠ '\\'

theorem escapes_proper : ∀ x ∈ escapes, x.Proper := by
  have key : ∀ x ∈ escapes, (∀ w ∈ x.words, w.toList.all Text.isAsciiLetter = true) ∧
      Text.isAsciiLetter x.letter = true ∧
      Text.isWordChar x.control = false ∧ Text.isAsciiLetter x.control = false ∧ x.control ≠ '\\' := by decide
  intro x hx
  obtain ⟨hletters, hletter, hcontrol, hnoletter, hslash⟩ := key x hx
  exact ⟨fun w hw => List.all_eq_true.1 (hletters w hw), hletter, hcontrol, hnoletter, hslash⟩

theorem startsWithLetter_of_endsWord {s : Text} (h : Text.endsWord s = true) : startsWithLetter s = false := by
  cases s with
  | nil => rfl
  | cons c s =>
    cases hl : Text.isAsciiLetter c with
    | false => exact hl
    | true =>
      have hc := Text.isWordChar_of_alphanumeric (Text.isAsciiAlphanumeric_of_letter hl)
      rw [Text.endsWord, hc] at h
      exact absurd h Bool.false_ne_true

/-- Where letters stop is where they stop. -/
theorem eq_of_letters {w w' r r' : Text} (h : w ++ r = w' ++ r') (hw : ∀ c ∈ w, Text.isAsciiLetter c = true)
    (hw' : ∀ c ∈ w', Text.isAsciiLetter c = true) (hr : startsWithLetter r = false)
    (hr' : startsWithLetter r' = false) : w = w' ∧ r = r' := by
  induction w generalizing w' with
  | nil =>
    cases w' with
    | nil => exact ⟨rfl, h⟩
    | cons c w' =>
      rw [List.nil_append] at h
      simp [h, startsWithLetter, hw' c List.mem_cons_self] at hr
  | cons c w ih =>
    cases w' with
    | nil =>
      rw [List.nil_append] at h
      simp [← h, startsWithLetter, hw c List.mem_cons_self] at hr'
    | cons d w' =>
      simp only [List.cons_append, List.cons.injEq] at h
      obtain ⟨rfl, h⟩ := h
      obtain ⟨rfl, hr⟩ := ih h (fun e he => hw e (List.mem_cons_of_mem _ he))
        (fun e he => hw' e (List.mem_cons_of_mem _ he))
      exact ⟨rfl, hr⟩

theorem ne_backslash_of_letter {c : Char} (hc : Text.isAsciiLetter c = true) : c ≠ '\\' := by
  rintro rfl
  exact absurd hc (by decide)

theorem startsWithLetter_dropWhile (s : Text) : startsWithLetter (s.dropWhile Text.isAsciiLetter) = false := by
  have h := List.head?_dropWhile_not Text.isAsciiLetter s
  rw [startsWithLetter]
  cases hs : (s.dropWhile Text.isAsciiLetter).head? with
  | none => rfl
  | some c =>
    rw [hs] at h
    simpa using h

theorem letters_takeWhile (s : Text) : ∀ c ∈ s.takeWhile Text.isAsciiLetter, Text.isAsciiLetter c = true :=
  List.all_eq_true.1 List.all_takeWhile

/-- A run of letters is read up to its end. -/
theorem letters_append {w r : Text} (hw : ∀ c ∈ w, Text.isAsciiLetter c = true) (hr : startsWithLetter r = false) :
    (w ++ r).takeWhile Text.isAsciiLetter = w ∧ (w ++ r).dropWhile Text.isAsciiLetter = r :=
  eq_of_letters List.takeWhile_append_dropWhile (letters_takeWhile _) hw (startsWithLetter_dropWhile _) hr

namespace Escape

variable {x : Escape}

theorem Proper.mem_letters (h : x.Proper) {w : Text} (hw : w ∈ x.words.map String.toList) :
    ∀ c ∈ w, Text.isAsciiLetter c = true := by
  obtain ⟨u, hu, rfl⟩ := List.mem_map.1 hw
  exact h.letters u hu

theorem Proper.spells (h : x.Proper) :
    Spells x.corruption x.control (x.words.map String.toList) x.whole ['\\', x.letter] :=
  spells_ofControl fun w hw hm => by simpa [h.controlLetter] using h.letters w hw _ hm

theorem isWord_iff {s : Text} : x.isWord s = true ↔
    ∃ w ∈ x.words.map String.toList, ∃ r, s = x.letter :: (w ++ r) ∧ startsWithLetter r = false := by
  simp only [isWord, List.any_eq_true, Option.any_eq_true, Bool.not_eq_true', List.mem_map]
  constructor
  · rintro ⟨u, hu, r, hr, hl⟩
    exact ⟨u.toList, ⟨u, hu, rfl⟩, r, Text.after?_eq_some.1 hr, hl⟩
  · rintro ⟨-, ⟨u, hu, rfl⟩, r, rfl, hl⟩
    exact ⟨u, hu, r, Text.after?_eq_some.2 rfl, hl⟩

/-! ## What damage leaves -/

theorem damage_cons {c : Char} (hc : c ≠ '\\') (before : Option Char) (s : Text) :
    x.damage before (c :: s) = c :: x.damage (some c) s := by
  cases s with
  | nil => rfl
  | cons d s => simp [damage, hc]

theorem damage_letters {w : Text} (hw : ∀ c ∈ w, Text.isAsciiLetter c = true) (before : Option Char) (r : Text) :
    x.damage before (w ++ r) = w ++ x.damage (lastOf before w) r := by
  induction w generalizing before with
  | nil => rfl
  | cons c w ih =>
    have hc : c ≠ '\\' := by
      rintro rfl
      exact absurd (hw _ List.mem_cons_self) (by decide)
    rw [List.cons_append, damage_cons hc, ih (fun d hd => hw d (List.mem_cons_of_mem _ hd)), lastOf_cons]
    rfl

/-- The head of a damaged text is a word character or a letter if the head of the text is. -/
theorem Proper.endsWord_damage (h : x.Proper) (before : Option Char) (r : Text) :
    Text.endsWord (x.damage before r) = Text.endsWord r := by
  cases r with
  | nil => rfl
  | cons c r =>
    cases r with
    | nil => rfl
    | cons d r =>
      rw [damage]
      split
      · next hd =>
        have : Text.isWordChar '\\' = false := by decide
        simp [Text.endsWord, h.control, hd.1, this]
      · rfl

theorem Proper.startsWithLetter_damage (h : x.Proper) (before : Option Char) (r : Text) :
    startsWithLetter (x.damage before r) = startsWithLetter r := by
  cases r with
  | nil => rfl
  | cons c r =>
    cases r with
    | nil => rfl
    | cons d r =>
      rw [damage]
      split
      · next hd =>
        have : Text.isAsciiLetter '\\' = false := by decide
        simp [startsWithLetter, h.controlLetter, hd.1, this]
      · rfl

/-- The damage to a control word is seen if the entry does not ask for the end of a word, or there is one. -/
theorem Proper.starts_damage (h : x.Proper) {w r : Text} (hw : w ∈ x.words.map String.toList)
    (hr : startsWithLetter r = false) (before before' : Option Char) :
    x.corruption.starts before' (x.control :: x.damage before (w ++ r)) = true ↔
      (x.whole = true → Text.endsWord r = true) := by
  have hguard : before'.any x.corruption.guard = false := by
    cases before' <;> rfl
  rw [starts, hguard, Bool.not_false, Bool.and_true, h.spells.read?_isSome_iff, damage_letters (h.mem_letters hw)]
  constructor
  · rintro ⟨-, w', hw', r', he, hend⟩ hwhole
    have hr' := startsWithLetter_of_endsWord (hend hwhole)
    rw [← h.startsWithLetter_damage (lastOf before w)] at hr
    obtain ⟨-, rfl⟩ := eq_of_letters he (h.mem_letters hw) (h.mem_letters hw') hr hr'
    rw [← h.endsWord_damage (lastOf before w)]
    exact hend hwhole
  · intro hend
    exact ⟨rfl, w, hw, _, rfl, fun hwhole => (h.endsWord_damage _ r).trans (hend hwhole)⟩

/-! ## Listed control words -/

theorem listed_cons {before : Option Char} {c : Char} {t a w r : Text} :
    x.Listed before (c :: t) (c :: a) w r ↔ x.Listed (some c) t a w r := by
  constructor
  · rintro ⟨he, hb, hw, hr⟩
    rw [lastOf_cons] at hb
    exact ⟨(List.cons.inj he).2, hb, hw, hr⟩
  · rintro ⟨rfl, hb, hw, hr⟩
    exact ⟨rfl, by rwa [lastOf_cons], hw, hr⟩

/-- Every listed control word ends where a word does. -/
def WordsEnd (x : Escape) (before : Option Char) (t : Text) : Prop :=
  ∀ a w r, x.Listed before t a w r → Text.endsWord r = true

theorem wordsEnd_of_length {before : Option Char} {t : Text} (ht : t.length ≤ 1) : x.WordsEnd before t := by
  rintro a w r ⟨rfl, -, -, -⟩
  simp only [List.length_append, List.length_cons] at ht
  omega

theorem wordsEnd_cons_of_not {before : Option Char} {c : Char} {t : Text}
    (h : ¬(c = '\\' ∧ before ≠ some '\\' ∧ x.isWord t = true)) :
    x.WordsEnd before (c :: t) ↔ x.WordsEnd (some c) t := by
  constructor
  · exact fun hall a w r hl => hall (c :: a) w r (listed_cons.2 hl)
  · intro hall a w r hl
    cases a with
    | nil =>
      obtain ⟨rfl, rfl⟩ := List.cons.inj hl.eq
      exact absurd ⟨rfl, hl.notEscaped, isWord_iff.2 ⟨w, hl.listed, r, rfl, hl.ends⟩⟩ h
    | cons d a =>
      obtain ⟨rfl, -⟩ := List.cons.inj hl.eq
      exact hall a w r (listed_cons.1 hl)

theorem Proper.wordsEnd_cons (h : x.Proper) {before : Option Char} {w r : Text} (hb : before ≠ some '\\')
    (hw : w ∈ x.words.map String.toList) (hr : startsWithLetter r = false) :
    x.WordsEnd before ('\\' :: x.letter :: (w ++ r)) ↔
      Text.endsWord r = true ∧ x.WordsEnd (some x.letter) (w ++ r) := by
  constructor
  · exact fun hall => ⟨hall [] w r ⟨rfl, hb, hw, hr⟩,
      fun a w' r' hl => hall ('\\' :: x.letter :: a) w' r' (listed_cons.2 (listed_cons.2 hl))⟩
  · rintro ⟨hend, hall⟩ a w' r' hl
    have he := hl.eq
    cases a with
    | nil =>
      simp only [List.nil_append, List.cons.injEq, true_and] at he
      obtain ⟨-, rfl⟩ := eq_of_letters he (h.mem_letters hw) (h.mem_letters hl.listed) hr hl.ends
      exact hend
    | cons d a =>
      cases a with
      | nil =>
        simp only [List.cons_append, List.nil_append, List.cons.injEq] at he
        exact absurd (he.2.1 ▸ h.letter) (by decide)
      | cons e a =>
        simp only [List.cons_append, List.cons.injEq] at he
        obtain ⟨rfl, rfl, -⟩ := he
        exact hall a w' r' (listed_cons.1 (listed_cons.1 hl))

/-! ## The round trip -/

theorem Proper.rewrite_damage_iff (h : x.Proper) (before : Option Char) (t : Text) (ht : x.control ∉ t) :
    ∀ before', x.corruption.rewrite ['\\', x.letter] before' (x.damage before t) = t ↔
      (x.whole = true → x.WordsEnd before t) := by
  fun_induction damage x before t with
  | case1 before => simp [rewrite, wordsEnd_of_length]
  | case2 before c =>
    have hc : c ≠ x.control := fun he => ht (by simp [he])
    intro before'
    rw [rewrite_keeps (h.spells.starts_of_ne hc _ _)]
    simp [rewrite, wordsEnd_of_length]
  | case3 before c d s hd ih =>
    obtain ⟨rfl, hb, hword⟩ := hd
    obtain ⟨w, hw, r, he, hr⟩ := isWord_iff.1 hword
    obtain ⟨rfl, rfl⟩ := List.cons.inj he
    have ih := ih (fun hm => ht (by simp [hm]))
    intro before'
    have hs := h.starts_damage hw hr (some x.letter) before'
    rw [h.wordsEnd_cons hb hw hr]
    by_cases hend : x.whole = true → Text.endsWord r = true
    · rw [rewrite_starts (hs.2 hend)]
      simp only [List.cons_append, List.nil_append, List.cons.injEq, true_and, ih]
      exact ⟨fun hall hwhole => ⟨hend hwhole, hall hwhole⟩, fun hall hwhole => (hall hwhole).2⟩
    · have hns := Bool.eq_false_iff.2 fun hst => hend (hs.1 hst)
      rw [rewrite_keeps hns]
      simp only [List.cons.injEq, h.controlBackslash, false_and, false_iff]
      exact fun hall => hend fun hwhole => (hall hwhole).1
  | case4 before c d s hd ih =>
    have hc : c ≠ x.control := fun he => ht (by simp [he])
    have ih := ih (fun hm => ht (List.mem_cons_of_mem _ hm))
    intro before'
    rw [rewrite_keeps (h.spells.starts_of_ne hc _ _), wordsEnd_cons_of_not hd, ← ih (some c)]
    simp

/-- **Repair undoes damage** exactly if each listed control word ends where the entry looks for the
end of a word. -/
theorem repair_damage_iff (x : Escape) (hx : x ∈ escapes) (t : Text) (ht : x.control ∉ t) :
    x.corruption.repair (x.damage none t) = t ↔ (x.whole = true → x.WordsEnd none t) := by
  have h := escapes_proper x hx
  rw [repair_eq_rewrite h.spells.isLocal]
  exact h.rewrite_damage_iff none t ht none

/-- With a subscript behind it, `\theta` stays damaged. -/
theorem repair_damage_subscript :
    let x : Escape := ⟨"tab-escape", '\t', 't', true, ["imes", "extbf", "extit", "ext", "heta", "frac"]⟩
    let t : Text := ['\\', 't', 'h', 'e', 't', 'a', '_', '1']
    x ∈ escapes ∧ x.control ∉ t ∧ x.damage none t = ['\t', 'h', 'e', 't', 'a', '_', '1'] ∧
      x.corruption.repair (x.damage none t) ≠ t := by
  intro x t
  have hx : x ∈ escapes := by decide
  have ht : x.control ∉ t := by decide
  refine ⟨hx, ht, by decide, fun he => ?_⟩
  have hall := (repair_damage_iff x hx t ht).1 he rfl
  have hl : x.Listed none t [] ['h', 'e', 't', 'a'] ['_', '1'] := ⟨rfl, by decide, by decide, by decide⟩
  exact absurd (hall _ _ _ hl) (by decide)

end Escape

end Coursebook.Corruption
