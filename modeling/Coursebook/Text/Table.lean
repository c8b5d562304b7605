/-
Tables of character data. A table is written as one text in the notation of
the Unicode data files, code points in hexadecimal, and read once into a
list. The readers accept exactly what the tables of this library hold.
-/
import Coursebook.Text.Blank

namespace Coursebook.Text

def hexDigit? (c : Char) : Option Nat :=
  if isAsciiDigit c then some (c.toNat - 48)
  else if 'a' ≤ c ∧ c ≤ 'f' then some (c.toNat - 87)
  else if 'A' ≤ c ∧ c ≤ 'F' then some (c.toNat - 55)
  else none

def hexValue (s : Text) : Nat := s.foldl (fun n c => n * 16 + (hexDigit? c).getD 0) 0

/-- The two sides of the first occurrence of a separator; without one, the whole and nothing. -/
def cutPair (sep : Char) (s : Text) : Text × Text :=
  match cut? [sep] s with
  | some pair => pair
  | none => (s, [])

/-- Reads `a-b`, or `a` alone for `a-a`. -/
def readRange (s : Text) : Nat × Nat :=
  match cutPair '-' s with
  | (a, []) => (hexValue a, hexValue a)
  | (a, b) => (hexValue a, hexValue b)

def readRanges (table : String) : List (Nat × Nat) := (words table.toList).map readRange

def inRanges (ranges : List (Nat × Nat)) (n : Nat) : Bool := ranges.any fun (a, b) => a ≤ n && n ≤ b

/-- Reads a table of lines `a:b+c+…`. -/
def readSequences (table : String) : List (Nat × List Nat) :=
  (words table.toList).map fun w => let (a, bs) := cutPair ':' w; (hexValue a, (splitOn ['+'] bs).map hexValue)

/-- A mapping of every `step`-th code point from `first` to `last`, the first of them to `target`
and the others as far from it. -/
structure Run where
  first : Nat
  last : Nat
  step : Nat
  target : Nat

namespace Run

def covers (r : Run) (n : Nat) : Bool := r.first ≤ n && n ≤ r.last && (n - r.first) % r.step = 0

/-- Reads `first-last/step:target`; without `/step` the step is one. -/
def read (s : Text) : Run :=
  let (source, target) := cutPair ':' s
  let (range, step) := cutPair '/' source
  let (a, b) := readRange range
  ⟨a, b, if step = [] then 1 else digitsValue step, hexValue target⟩

end Run

def readRuns (table : String) : List Run := (words table.toList).map Run.read

/-- The code point that the runs map `n` to; one that no run covers stands for itself. -/
def mapRuns (runs : List Run) (n : Nat) : Nat :=
  match runs.find? (·.covers n) with
  | some r => r.target + (n - r.first)
  | none => n

end Coursebook.Text
