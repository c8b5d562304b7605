/-
The shortest decimal that reads back as a given double, and its two
layouts: positional, and with an exponent.

For one digit, two digits and so on, the two decimals of that many digits
next to the value are tried; the first length with a hit wins, and of two
hits the nearer. Seventeen digits always suffice.
-/
import Coursebook.Decimal.Binary64
import Coursebook.Text.Basic

namespace Coursebook

/-- A positive decimal: the digits after a point, times ten to the `point`. -/
structure Decimal where
  digits : Text
  point : Int
deriving Repr, DecidableEq

namespace Decimal

open Binary64 (Ratio)

/-- `n` times ten to the `k`, as a fraction. -/
def scaled (n : Nat) (k : Int) : Ratio := if 0 ≤ k then ⟨n * Nat.pow 10 k.toNat, 1⟩ else ⟨n, Nat.pow 10 (-k).toNat⟩

/-- The number of digits in front of the point of a fraction that is at least one, found by raising
`p` as long as ten to the `p` is not above it. -/
def raisePoint (q : Ratio) : (fuel : Nat) → (p : Int) → Int
  | 0, p => p
  | fuel + 1, p =>
    let t := scaled 1 p
    if t.num * q.den ≤ q.num * t.den then raisePoint q fuel (p + 1) else p

/-- The least `p` such that a positive double is below ten to the `p`. -/
def pointOf (q : Ratio) : Int := raisePoint q 700 (-330)

/-- The two decimals of `n` digits next to a value below ten to the `p`. -/
def neighbours (q : Ratio) (p : Int) (n : Nat) : Nat × Nat :=
  let unit := scaled 1 (p - n)
  let below := q.num * unit.den / (q.den * unit.num)
  (below, below + 1)

/-- The distance of `n` units of ten to the `k` from a value, times a factor that depends only on
the value and on `k`. -/
def distance (q : Ratio) (n : Nat) (k : Int) : Nat :=
  let t := scaled n k
  let a := t.num * q.den
  let b := q.num * t.den
  if a ≤ b then b - a else a - b

/-- The nearest decimal of `n` digits that reads back, if one does. -/
def nearest? (b : Binary64) (q : Ratio) (p : Int) (n : Nat) : Option Nat :=
  let (lo, hi) := neighbours q p n
  let k := p - n
  match b.covers (scaled lo k), b.covers (scaled hi k) with
  | true, true =>
    let dl := distance q lo k
    let dh := distance q hi k
    some (if dl < dh ∨ (dl = dh ∧ lo % 2 = 0) then lo else hi)
  | true, false => some lo
  | false, true => some hi
  | false, false => none

def dropTrailingZeros (s : Text) : Text := (s.reverse.dropWhile (· = '0')).reverse

/-- The decimal of `n` units of ten to the `k`. -/
def ofUnits (n : Nat) (k : Int) : Decimal :=
  let ds := Text.ofNat n
  ⟨dropTrailingZeros ds, ds.length + k⟩

/-- Searches the shortest decimal, from `n` digits on. -/
def search (b : Binary64) (q : Ratio) (p : Int) : (fuel n : Nat) → Decimal
  | 0, n => ofUnits (neighbours q p n).1 (p - n)
  | fuel + 1, n =>
    match nearest? b q p n with
    | some d => ofUnits d (p - n)
    | none => search b q p fuel (n + 1)

/-- The shortest decimal that reads back as a positive double. -/
def shortest (b : Binary64) : Decimal := search b b.value (pointOf b.value) 17 1

def zeros (n : Nat) : Text := List.replicate n '0'

/-- The digits in front of the point, at least one, and those behind it, perhaps none. -/
def positional (d : Decimal) : Text × Text :=
  if d.point ≤ 0 then (['0'], zeros (-d.point).toNat ++ d.digits)
  else
    let n := d.point.toNat
    if d.digits.length ≤ n then (d.digits ++ zeros (n - d.digits.length), [])
    else (d.digits.take n, d.digits.drop n)

/-- One digit in front of the point, the others behind it, and a signed exponent. -/
def scientific (d : Decimal) : Text :=
  let e := d.point - 1
  let mantissa := match d.digits with
    | [] => ['0']
    | [c] => [c]
    | c :: cs => c :: '.' :: cs
  mantissa ++ 'e' :: (if e < 0 then '-' else '+') :: Text.ofNat e.natAbs

end Decimal

/-- The text of a double without exponent: no point for a whole number, and `inf` or `NaN` where
there are no digits. -/
def plainText (x : Float) : Text :=
  if Binary64.isFinite x then
    let sign := if Binary64.isNegative x then ['-'] else []
    if (Binary64.ofFloat x).mantissa = 0 then sign ++ ['0']
    else match (Decimal.shortest (Binary64.ofFloat x)).positional with
      | (whole, []) => sign ++ whole
      | (whole, part) => sign ++ whole ++ '.' :: part
  else if x.isNaN then "NaN".toList
  else if x < 0 then "-inf".toList
  else "inf".toList

end Coursebook
