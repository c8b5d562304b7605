/-
Reading a decimal whose digits are kept in a 64-bit word: the digits that
fit, as a double, times or divided by the power of ten that is left. The
word, the power and the product are each rounded, so the result can differ
from the nearest double in its last bits.
-/

namespace Coursebook.Decimal

def maxWord : Nat := 0xffffffffffffffff

/-- Ten to the `n` as a double. -/
def powerOfTen (n : Nat) : Float := Float.ofScientific 1 false n

/-- Divides by ten to the 308 as long as the exponent is below -308. -/
def divideDown : (fuel : Nat) → Float → Nat → Float
  | 0, x, _ => x
  | fuel + 1, x, n =>
    if n ≤ 308 then x / powerOfTen n
    else if x == 0 then x
    else divideDown fuel (x / powerOfTen 308) (n - 308)

/-- The double for a word of digits times ten to the `exponent`; nothing if it is beyond the
greatest double. -/
def ofWord? (digits : Nat) (exponent : Int) : Option Float :=
  let x := (UInt64.ofNat digits).toFloat
  if 0 ≤ exponent then
    if exponent ≤ 308 then
      let y := x * powerOfTen exponent.toNat
      if y.isInf then none else some y
    else if x == 0 then some x
    else none
  else some (divideDown 5 x (-exponent).toNat)

end Coursebook.Decimal
