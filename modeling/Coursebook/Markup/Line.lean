/-
The lines of a markup text: a cursor that counts columns across tabs, and
the recognisers for what stands at the head of a line.

A line ends at a line feed, a carriage return, or both; the end of the text
ends its last line.
-/
import Coursebook.Text.Basic

namespace Coursebook.Markup

/-! ## Line ends -/

def isSpace (c : Char) : Bool := c = ' ' || (0x09 ≤ c.toNat && c.toNat ≤ 0x0D)

/-- The white space of ASCII that does not end a line. -/
def isInnerSpace (c : Char) : Bool := c = ' ' || c = '\t' || c = '\x0b' || c = '\x0c'

/-- What follows a line end at the head of a text; the end of the text is a line end. -/
def afterLineEnd? : Text → Option Text
  | [] => some []
  | '\n' :: s => some s
  | '\r' :: '\n' :: s => some s
  | '\r' :: s => some s
  | _ => none

/-- What follows a line with nothing but white space in it. -/
def afterBlankLine? (s : Text) : Option Text := afterLineEnd? (s.dropWhile isInnerSpace)

def cutLine : Text → Text × Text
  | [] => ([], [])
  | '\n' :: s => (['\n'], s)
  | c :: s => let (line, r) := cutLine s; (c :: line, r)

def atLineEnd : Text → Bool
  | [] => true
  | c :: _ => c = '\n' || c = '\r'

/-- The number of times a character stands at the head of a text. -/
def runLength (c : Char) (s : Text) : Nat := (s.takeWhile (· = c)).length

/-! ## The cursor -/

/-- A position in a line: what is left, how many characters stand between the last tab and it, and
how many columns of a tab in front of it have not been used up. -/
structure Cursor where
  rest : Text
  sinceTab : Nat
  pending : Nat

namespace Cursor

def ofLine (s : Text) : Cursor := ⟨s, 0, 0⟩

/-- Passes up to `n` columns of spaces: how many were missing, and the place behind them. -/
def skipSpaces (n sinceTab : Nat) : Text → Nat × Cursor
  | [] => (n, ⟨[], sinceTab, 0⟩)
  | c :: s =>
    if n = 0 then (0, ⟨c :: s, sinceTab, 0⟩)
    else if c = ' ' then skipSpaces (n - 1) (sinceTab + 1) s
    else if c = '\t' then
      let width := 4 - sinceTab % 4
      if n < width then (0, ⟨s, 0, width - n⟩) else skipSpaces (n - width) 0 s
    else (n, ⟨c :: s, sinceTab, 0⟩)

/-- Passes up to `n` columns: how many were missing, and the place behind them. -/
def skipColumns (n : Nat) (c : Cursor) : Nat × Cursor :=
  if n ≤ c.pending then (0, { c with pending := c.pending - n }) else skipSpaces (n - c.pending) c.sinceTab c.rest

/-- Passes `n` columns, if there are as many. -/
def skipExactly? (n : Nat) (c : Cursor) : Option Cursor :=
  match c.skipColumns n with
  | (0, c) => some c
  | _ => none

/-- The number of columns up to `n` that can be passed, and the place behind them. -/
def columnsUpTo (n : Nat) (c : Cursor) : Nat × Cursor := let (missing, c) := c.skipColumns n; (n - missing, c)

def skipAllSpaces (c : Cursor) : Text := c.rest.dropWhile fun c => c = ' ' || c = '\t'

def skipChars (n : Nat) (c : Cursor) : Cursor := ⟨c.rest.drop n, c.sinceTab + n, c.pending⟩

/-- Passes the marker of a quote and a column behind it. -/
def skipQuoteMarker? (c : Cursor) : Option Cursor :=
  match c.rest with
  | '>' :: _ => some ((c.skipChars 1).skipColumns 1).2
  | _ => none

end Cursor

/-! ## What stands at the head of a line -/

/-- Counts the rule characters of a line that holds nothing else but spaces and tabs; nothing if it
holds anything else. -/
def ruleCount? (c : Char) : Text → Option (Nat × Text)
  | [] => some (0, [])
  | d :: s =>
    if d = c then (ruleCount? c s).map fun (n, r) => (n + 1, r)
    else if d = ' ' ∨ d = '\t' then ruleCount? c s
    else (afterLineEnd? (d :: s)).map fun r => (0, r)

def afterRule? : Text → Option Text
  | [] => none
  | c :: s =>
    if c = '*' ∨ c = '-' ∨ c = '_' then
      match ruleCount? c (c :: s) with
      | some (n, r) => if 3 ≤ n then some r else none
      | none => none
    else none

/-- Reads the hashes of a heading: their number, and what follows them. -/
def headingHashes? (s : Text) : Option (Nat × Text) :=
  let n := runLength '#' s
  let r := s.drop n
  if n = 0 ∨ 6 < n then none
  else match r with
    | [] => some (n, r)
    | c :: _ => if isSpace c then some (n, r) else none

/-- Reads the line under a heading: the level of the heading, and what follows the line. -/
def underline? : Text → Option (Nat × Text)
  | [] => none
  | c :: s =>
    if c = '=' ∨ c = '-' then
      (afterBlankLine? (s.dropWhile (· = c))).map fun r => (if c = '=' then 1 else 2, r)
    else none

/-- Reads the fence of a code block: its character and length, and what follows it. -/
def fence? : Text → Option (Char × Nat × Text)
  | [] => none
  | c :: s =>
    if c = '`' ∨ c = '~' then
      let n := runLength c (c :: s)
      let r := (c :: s).drop n
      if n < 3 ∨ (c = '`' ∧ '`' ∈ (cutLine r).1) then none else some (c, n, r)
    else none

/-- Reads the closing fence of a code block of at least `n` characters: what follows its spaces. -/
def afterClosingFence? (c : Char) (n : Nat) (s : Text) : Option Text :=
  if s = [] then some []
  else if runLength c s < n then none
  else
    let r := (s.dropWhile (· = c)).dropWhile (· = ' ')
    if atLineEnd r then some r else none

/-- The marker of a list item: its last character, the number in front of that, and its width. -/
structure ListMarker where
  char : Char
  number : Nat
  width : Nat

/-- Reads the marker of a list item: a bullet, or up to nine digits and a point or parenthesis. -/
def listMarker? : Text → Option ListMarker
  | [] => none
  | c :: s =>
    if c = '-' ∨ c = '+' ∨ c = '*' then some ⟨c, 0, 1⟩
    else
      let digits := (c :: s).takeWhile Text.isAsciiDigit
      if digits = [] ∨ 9 < digits.length then none
      else match (c :: s).drop digits.length with
        | d :: _ => if d = '.' ∨ d = ')' then some ⟨d, Text.digitsValue digits, digits.length + 1⟩ else none
        | [] => none

def ListMarker.isBullet (m : ListMarker) : Bool := m.char = '-' || m.char = '+' || m.char = '*'

/-- Reads the marker of a list item at a cursor whose line is indented by `indent`: the marker, how
far the content of the item is indented, and the place behind the marker and up to four columns. -/
def itemStart? (indent : Nat) (c : Cursor) : Option (ListMarker × Nat × Cursor) := do
  let m ← listMarker? c.rest
  if m.isBullet ∧ (afterRule? c.rest).isSome then none
  let behind := c.skipChars m.width
  let width := indent + m.width + 1
  match behind.skipExactly? 1 with
  | some c =>
    if (afterBlankLine? c.rest).isSome then return (m, width, c)
    let (extra, far) := c.columnsUpTo 4
    return if extra < 4 then (m, width + extra, far) else (m, width, c)
  | none => if atLineEnd behind.rest then return (m, width, behind) else none

/-- Whether a list item at the head of a text would be empty: its line and the next are blank. -/
def isEmptyItem (m : ListMarker) (s : Text) : Bool :=
  match afterBlankLine? (s.drop m.width) with
  | some r => (afterBlankLine? r).isSome
  | none => false

/-- Whether a list item starts at the head of a text. -/
def startsItem (m : ListMarker) (s : Text) : Bool :=
  match s.drop m.width with
  | [] => true
  | c :: _ => c = ' ' || c = '\t' || c = '\n' || c = '\r'

end Coursebook.Markup
