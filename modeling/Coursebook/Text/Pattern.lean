/-
Patterns: sequences of steps that read a text from its head, each as far as
it can. No step gives back what it has read, so a pattern reads a text in at
most one way.
-/
import Coursebook.Text.Blank

namespace Coursebook.Text

/-- A step of a pattern. The last four keep what they read. -/
inductive Step where
  | blank
  | exactly (s : Text)
  | maybe (c : Char)
  | oneOf (words : List Text)
  | character (p : Char → Bool)
  | symbol
  | followedBy (p : Char → Bool)

namespace Step

/-- Whether a character is a lower case letter of ASCII. -/
def isLower (c : Char) : Bool := 'a' ≤ c && c ≤ 'z'

/-- Reads a symbol: a letter, or a backslash and lower case letters. -/
def readSymbol : Text → Option (Text × Text)
  | '\\' :: s =>
    match s.takeWhile isLower with
    | [] => none
    | name => some ('\\' :: name, s.dropWhile isLower)
  | c :: s => if isAsciiLetter c then some ([c], s) else none
  | [] => none

/-- Reads one step: what it keeps, and what follows. What may follow a match is kept as it is found,
and nothing if it is not there. -/
def read : Step → Text → Option (List Text × Text)
  | blank, s => some ([], trimStart s)
  | exactly lead, s => (after? lead s).map fun r => ([], r)
  | maybe c, s => some ([], if s.head? = some c then s.tail else s)
  | oneOf words, s => words.findSome? fun w => (after? w s).map fun r => ([w], r)
  | character p, c :: s => if p c then some ([[c]], s) else none
  | character _, [] => none
  | symbol, s => (readSymbol s).map fun (w, r) => ([w], r)
  | followedBy p, s =>
    match trimStart s with
    | c :: r => if p c then some ([leadingBlank s ++ [c]], r) else some ([[]], s)
    | [] => some ([[]], s)

/-- Reads a pattern: what its steps keep, in order, and what follows. -/
def readAll : List Step → Text → Option (List Text × Text)
  | [], s => some ([], s)
  | step :: more, s => do
    let (kept, r) ← step.read s
    let (kept', r) ← readAll more r
    return (kept ++ kept', r)

end Step

end Coursebook.Text
