/-
Masking: every formula is taken out of a text and a placeholder with its
index is left behind, so that prose can be changed as one text while the
formulas are out of reach. Afterwards the placeholders are filled again,
wherever the change put them.

A text that already holds one of the two private-use characters around an
index cannot be masked; its prose is then changed piece by piece.
-/
import Coursebook.Segment

namespace Coursebook.Segment

def maskOpen : Char := '\uE000'

def maskClose : Char := '\uE001'

/-- A text with placeholders, and the raw formulas they stand for. -/
structure Masked where
  text : Text
  spans : List Text
deriving Repr, DecidableEq

def placeholder (n : Nat) : Text := maskOpen :: Text.ofNat n ++ [maskClose]

/-- Replaces each formula by the placeholder of its index, counting from `n`. -/
def maskFrom (n : Nat) : List Segment → Text
  | [] => []
  | prose t :: ss => t ++ maskFrom n ss
  | math _ _ :: ss => placeholder n ++ maskFrom (n + 1) ss

def mathSpans (ss : List Segment) : List Text := (ss.filter isMath).map raw

/-- Masks a text that holds no placeholder characters. -/
def mask? (s : Text) : Option Masked :=
  if maskOpen ∈ s ∨ maskClose ∈ s then none
  else some ⟨maskFrom 0 (split s), mathSpans (split s)⟩

/-- The formula that a placeholder names, if the text after its opening character is one. -/
def filled? (spans : List Text) (s : Text) : Option (Text × Text) := do
  let (index, r) ← Text.cut? [maskClose] s
  let span ← spans[(← Text.toNat? index)]?
  return (span, r)

/-- Puts the formulas back. A placeholder that names no formula is left as it is. -/
def Masked.restore (m : Masked) : Text → Text :=
  Text.replaceMatches fun
    | [] => none
    | c :: s => if c = maskOpen then filled? m.spans s else none

/-- Changes the prose of a text as a whole, its formulas masked. -/
def mapProse (f : Text → Text) (s : Text) : Text :=
  match mask? s with
  | some m => m.restore (f m.text)
  | none => mapText f s

end Coursebook.Segment
