/-
Texts as lists of characters, and the searches every other module is
written with: reading a lead, cutting at the first occurrence of a needle,
replacing all occurrences, cutting at a separator, and replacing the
leftmost matches of a recogniser.

A search answers with the pieces around what it found instead of an
offset, so that "nothing is lost" reads `s = before ++ needle ++ after`.
The lemmas beside the definitions say just that.
-/

namespace Coursebook

abbrev Text := List Char

/-- The instance of lists, under one name for all modules, however much of the library they see. -/
instance : LawfulBEq Text := inferInstance

namespace Text

/-- What follows `lead` at the head of a text, if the text starts with it. -/
def after? : (lead s : Text) → Option Text
  | [], s => some s
  | _ :: _, [] => none
  | a :: l, b :: s => if a = b then after? l s else none

theorem after?_eq_some {lead s r : Text} : after? lead s = some r ↔ s = lead ++ r := by
  induction lead generalizing s with
  | nil => simp [after?, eq_comm]
  | cons a l ih =>
    cases s with
    | nil => simp [after?]
    | cons b s =>
      by_cases h : a = b
      · simp [after?, h, ih]
      · simp [after?, h, Ne.symm h]

theorem after?_length {lead s r : Text} (h : after? lead s = some r) :
    r.length + lead.length = s.length := by
  rw [after?_eq_some.1 h, List.length_append, Nat.add_comm]

/-- Whether a text starts with `lead`. -/
def startsWith (lead s : Text) : Bool := (after? lead s).isSome

/-- Cuts a text around the first occurrence of `needle`. -/
def cut? (needle : Text) : Text → Option (Text × Text)
  | [] => if needle = [] then some ([], []) else none
  | c :: s =>
    match after? needle (c :: s) with
    | some r => some ([], r)
    | none => (cut? needle s).map fun (before, r) => (c :: before, r)

theorem eq_of_cut? {needle s before r : Text} (h : cut? needle s = some (before, r)) :
    s = before ++ needle ++ r := by
  induction s generalizing before with
  | nil => simp [cut?] at h; simp [h]
  | cons c s ih =>
    unfold cut? at h
    split at h
    · rename_i r' hr
      simp only [Option.some.injEq, Prod.mk.injEq] at h
      obtain ⟨rfl, rfl⟩ := h
      simpa using after?_eq_some.1 hr
    · simp only [Option.map_eq_some_iff, Prod.mk.injEq, Prod.exists] at h
      obtain ⟨b, r', hb, rfl, rfl⟩ := h
      simp [ih hb]

/-- Whether `needle` occurs in a text. -/
def contains (needle s : Text) : Bool := (cut? needle s).isSome

/-- Replaces the leftmost matches, from left to right. At each place
`match?` answers with the replacement and the text that follows the match;
a match that consumes nothing is passed over. -/
def replaceMatches (match? : Text → Option (Text × Text)) : Text → Text
  | [] => []
  | c :: s =>
    match match? (c :: s) with
    | none => c :: replaceMatches match? s
    | some (out, r) =>
      if _h : r.length ≤ s.length then out ++ replaceMatches match? r else c :: replaceMatches match? s
termination_by s => s.length
decreasing_by all_goals simp only [List.length_cons]; omega

/-- Something found in a text, between two character positions. -/
structure Match (α : Type) where
  start : Nat
  stop : Nat
  value : α
deriving Repr

/-- The leftmost matches of a recogniser, from left to right, with positions counted from `pos`. At
each place `match?` answers with what was found and the text that follows it; a match that consumes
nothing is passed over. -/
def matchesFrom {α : Type} (match? : Text → Option (α × Text)) (pos : Nat) : Text → List (Match α)
  | [] => []
  | c :: s =>
    match match? (c :: s) with
    | none => matchesFrom match? (pos + 1) s
    | some (value, r) =>
      if _h : r.length ≤ s.length then
        let stop := pos + ((c :: s).length - r.length)
        ⟨pos, stop, value⟩ :: matchesFrom match? stop r
      else matchesFrom match? (pos + 1) s
termination_by s => s.length
decreasing_by all_goals simp only [List.length_cons]; omega

/-- The leftmost matches of a recogniser, from left to right. -/
def findAll {α : Type} (match? : Text → Option (α × Text)) (s : Text) : List (Match α) := matchesFrom match? 0 s

def slice (s : Text) (start stop : Nat) : Text := (s.drop start).take (stop - start)

/-- Replaces every occurrence of `needle`, from left to right. -/
def replace (needle out : Text) : Text → Text :=
  replaceMatches fun s => (after? needle s).map fun r => (out, r)

/-- Cuts a text at every occurrence of the separator. -/
def splitOn (sep : Text) (s : Text) : List Text :=
  match _h : cut? sep s with
  | none => [s]
  | some (before, r) => if _ : sep = [] then [s] else before :: splitOn sep r
termination_by s.length
decreasing_by
  have := List.length_pos_iff.2 ‹sep ≠ []›
  simp [eq_of_cut? _h]
  omega

def join (sep : Text) : List Text → Text
  | [] => []
  | [s] => s
  | s :: ss => s ++ sep ++ join sep ss

/-- The longest head whose characters satisfy `p`, and what follows it. -/
def span (p : Char → Bool) (s : Text) : Text × Text := (s.takeWhile p, s.dropWhile p)

theorem span_append (p : Char → Bool) (s : Text) : (span p s).1 ++ (span p s).2 = s :=
  List.takeWhile_append_dropWhile

def isAsciiLetter (c : Char) : Bool := ('a' ≤ c && c ≤ 'z') || ('A' ≤ c && c ≤ 'Z')

def isAsciiDigit (c : Char) : Bool := '0' ≤ c && c ≤ '9'

def isAsciiAlphanumeric (c : Char) : Bool := isAsciiLetter c || isAsciiDigit c

/-- The lower case of an ASCII letter; every other character stands for itself. -/
def asciiLower (c : Char) : Char := if 'A' ≤ c && c ≤ 'Z' then Char.ofNat (c.toNat + 32) else c

/-- The upper case of an ASCII letter; every other character stands for itself. -/
def asciiUpper (c : Char) : Char := if 'a' ≤ c && c ≤ 'z' then Char.ofNat (c.toNat - 32) else c

def ofNat (n : Nat) : Text := Nat.toDigits 10 n

/-- The decimal digits of an integer, after a minus sign if it is negative. -/
def ofInt : Int → Text
  | .ofNat n => ofNat n
  | .negSucc n => '-' :: ofNat (n + 1)

def digitsValue (ds : Text) : Nat := ds.foldl (fun n d => n * 10 + (d.toNat - 48)) 0

/-- A natural number as its digits, with an optional plus sign in front. -/
def toNat? (s : Text) : Option Nat :=
  let ds := match s with
    | '+' :: r => r
    | r => r
  if ds ≠ [] ∧ ds.all isAsciiDigit then some (digitsValue ds) else none

end Text

end Coursebook
