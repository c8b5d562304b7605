/-
Offsets as the outside sees them: positions in the UTF-8 encoding of a
text. Inside the library a position is a pair of pieces or a number of
characters; these functions change between the two.
-/
import Coursebook.Text.Basic

namespace Coursebook.Text

def byteLength : Text → Nat
  | [] => 0
  | c :: s => c.utf8Size + byteLength s

@[simp] theorem byteLength_append (s t : Text) : byteLength (s ++ t) = byteLength s + byteLength t := by
  induction s with
  | nil => simp [byteLength]
  | cons c s ih => simp [byteLength, ih, Nat.add_assoc]

/-- The byte offset of the character at position `n`. -/
def byteOffset (s : Text) (n : Nat) : Nat := byteLength (s.take n)

/-- Cuts a text at a byte offset: the characters that end at or before it, and the rest. An offset
inside a character cuts in front of that character. -/
def cutAtByte (n : Nat) : Text → Text × Text
  | [] => ([], [])
  | c :: s => if c.utf8Size ≤ n then let (a, b) := cutAtByte (n - c.utf8Size) s; (c :: a, b) else ([], c :: s)

end Coursebook.Text
