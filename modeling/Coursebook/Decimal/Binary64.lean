/-
Double-precision numbers taken apart: a finite number is a sign and a whole
number of units `2 ^ e`, and the reals that round to it form an interval
around it. The shortest decimal of a number is searched in that interval.
-/

namespace Coursebook

/-- A non-negative double taken apart: `mantissa` units of two to the `exponent`. -/
structure Binary64 where
  mantissa : Nat
  exponent : Int
deriving Repr, DecidableEq

namespace Binary64

/-- The number of fractions that share an exponent: two to the 52. -/
def fractions : Nat := 1 <<< 52

def exponents : Nat := 1 <<< 11

def fractionBits (x : Float) : Nat := x.toBits.toNat % fractions

def biasedExponent (x : Float) : Nat := x.toBits.toNat / fractions % exponents

def isNegative (x : Float) : Bool := x.toBits.toNat / (fractions * exponents) = 1

def isFinite (x : Float) : Bool := biasedExponent x ≠ exponents - 1

def ofFloat (x : Float) : Binary64 :=
  if biasedExponent x = 0 then ⟨fractionBits x, -1074⟩
  else ⟨fractions + fractionBits x, biasedExponent x - 1075⟩

/-- A fraction of natural numbers. -/
structure Ratio where
  num : Nat
  den : Nat

/-- `n` units of two to the `e`, as a fraction. -/
def ratio (n : Nat) (e : Int) : Ratio := if 0 ≤ e then ⟨n <<< e.toNat, 1⟩ else ⟨n, 1 <<< (-e).toNat⟩

def value (b : Binary64) : Ratio := ratio (4 * b.mantissa) (b.exponent - 2)

/-- Whether the neighbour below is closer than the one above: the mantissa is the least of its
binade and there is a binade below. -/
def isBinadeStart (b : Binary64) : Bool := b.mantissa = fractions ∧ b.exponent ≠ -1074

def lower (b : Binary64) : Ratio :=
  ratio (4 * b.mantissa - if b.isBinadeStart then 1 else 2) (b.exponent - 2)

def upper (b : Binary64) : Ratio := ratio (4 * b.mantissa + 2) (b.exponent - 2)

/-- Whether a fraction rounds to the number; the ends of the interval do if the mantissa is even. -/
def covers (b : Binary64) (q : Ratio) : Bool :=
  let lo := b.lower
  let hi := b.upper
  if b.mantissa % 2 = 0 then lo.num * q.den ≤ q.num * lo.den ∧ q.num * hi.den ≤ hi.num * q.den
  else lo.num * q.den < q.num * lo.den ∧ q.num * hi.den < hi.num * q.den

end Binary64

end Coursebook
