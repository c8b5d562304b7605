/-
Normal form C of Unicode: canonical decomposition, canonical order of
marks, canonical composition.

No character below U+0300 is a mark, none below U+00C0 decomposes, and no
pair composes whose second character is below U+0300; the definitions test
these bounds before they look into the tables.
-/
import Coursebook.Text.Basic
import Coursebook.Text.Normal.Data

namespace Coursebook.Text

/-- The canonical combining class; zero for the characters that start a sequence. -/
def combiningClass (c : Char) : Nat :=
  if c.toNat < 0x300 then 0
  else match combiningClasses.find? fun ((a, b), _) => a ≤ c.toNat && c.toNat ≤ b with
    | some (_, k) => k
    | none => 0

/-! ## Hangul -/

def isHangulSyllable (n : Nat) : Bool := 0xAC00 ≤ n && n < 0xD7A4

/-- A syllable is a leading consonant, a vowel and perhaps a trailing consonant. -/
def decomposeHangul (n : Nat) : Text :=
  let i := n - 0xAC00
  let lv := [Char.ofNat (0x1100 + i / 588), Char.ofNat (0x1161 + i % 588 / 28)]
  if i % 28 = 0 then lv else lv ++ [Char.ofNat (0x11A7 + i % 28)]

/-- A consonant and a vowel, or such a syllable and a trailing consonant, make a syllable. -/
def composeHangul? (a b : Nat) : Option Char :=
  if 0x1100 ≤ a ∧ a < 0x1113 ∧ 0x1161 ≤ b ∧ b < 0x1176 then
    some (Char.ofNat (0xAC00 + ((a - 0x1100) * 21 + (b - 0x1161)) * 28))
  else if isHangulSyllable a ∧ (a - 0xAC00) % 28 = 0 ∧ 0x11A7 < b ∧ b < 0x11C3 then
    some (Char.ofNat (a + (b - 0x11A7)))
  else none

/-! ## Decomposition, order, composition -/

/-- The full canonical decomposition of a code point. That of a composite ends with the second of the
pair that makes it, and the first is taken apart by what stands behind the pair. -/
def decomposeCode : List (Nat × Nat × Nat) → Nat → List Nat
  | [], n =>
    match decompositions.find? (·.1 = n) with
    | some (_, ns) => ns
    | none => [n]
  | (d, a, b) :: pairs, n => if n = d then decomposeCode pairs a ++ [b] else decomposeCode pairs n

def decomposeChar (c : Char) : Text :=
  if c.toNat < 0xC0 then [c]
  else if isHangulSyllable c.toNat then decomposeHangul c.toNat
  else (decomposeCode compositions c.toNat).map Char.ofNat

/-- Puts a character in front of an ordered text, behind the marks of a smaller class. -/
def placeMark (c : Char) : Text → Text
  | [] => [c]
  | d :: s =>
    if combiningClass d ≠ 0 ∧ combiningClass d < combiningClass c then d :: placeMark c s else c :: d :: s

/-- Orders every run of marks by class; marks of one class keep their order. -/
def orderMarks : Text → Text
  | [] => []
  | c :: s => placeMark c (orderMarks s)

def composePair? (a b : Char) : Option Char :=
  if b.toNat < 0x300 then none
  else match composeHangul? a.toNat b.toNat with
    | some c => some c
    | none => (compositions.find? (·.2 = (a.toNat, b.toNat))).map fun (n, _) => Char.ofNat n

/-- Composes a starter with what follows it. `kept` are the marks in between that did not compose,
the latest first; a mark composes only if it is of a higher class than the latest of them. -/
def composeAfter (starter : Char) (kept : Text) : Text → Text
  | [] => starter :: kept.reverse
  | c :: s =>
    let free := match kept with
      | [] => true
      | k :: _ => combiningClass k < combiningClass c
    match if free then composePair? starter c else none with
    | some d => composeAfter d kept s
    | none =>
      if combiningClass c = 0 then starter :: kept.reverse ++ composeAfter c [] s
      else composeAfter starter (c :: kept) s

def compose : Text → Text
  | [] => []
  | c :: s => if combiningClass c = 0 then composeAfter c [] s else c :: compose s

def normalize (s : Text) : Text := compose (orderMarks (s.flatMap decomposeChar))

end Coursebook.Text
