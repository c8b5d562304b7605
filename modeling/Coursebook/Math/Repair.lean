/-
Repairs inside formulas: three spellings of the sign "not equal", the
shorthand for the number sets, and blank lines in displayed formulas.
-/
import Coursebook.Math.Delimiter

namespace Coursebook.Math

/-- The control word for "not equal", with the space that ends it. -/
def notEqualWord : Text := "\\neq ".toList

/-- Reads `\not` and an equals sign, with the white space around the sign. -/
def negatedEquals? (s : Text) : Option (Text × Text) := do
  match Text.trimStart (← Text.after? "\\not".toList s) with
  | '=' :: r => return (notEqualWord, Text.trimStart r)
  | _ => none

/-- Reads `\neq` at the end of a line, with the white space that follows. -/
def splitNotEqual? (s : Text) : Option (Text × Text) := do
  let s ← Text.after? "\\neq".toList s
  let r ← Text.afterLineEnd? (s.dropWhile Text.isSpaceOrTab)
  return (notEqualWord, Text.trimStart r)

/-- Reads the sign itself, with the white space that follows. -/
def notEqualSign? : Text → Option (Text × Text)
  | '≠' :: r => some (notEqualWord, Text.trimStart r)
  | _ => none

def numberSets : List Char := ['R', 'N', 'Z', 'Q', 'C']

/-- Reads a control word: a backslash and letters. The shorthand of a number set gives its
blackboard letter, any other word itself. -/
def controlWord? : Text → Option (Text × Text)
  | '\\' :: s =>
    match s.takeWhile Text.isAsciiLetter, s.dropWhile Text.isAsciiLetter with
    | [], _ => none
    | [c], r => if c ∈ numberSets then some ("\\mathbb\x7b".toList ++ [c, '}'], r) else some (['\\', c], r)
    | word, r => some ('\\' :: word, r)
  | _ => none

/-- Applies the token repairs, each to the result of the one before. -/
def repairTokens (b : Text) : Text :=
  Text.replaceMatches controlWord?
    (Text.replaceMatches notEqualSign? (Text.replaceMatches splitNotEqual? (Text.replaceMatches negatedEquals? b)))

/-- Reads a line ending followed by a blank line, with the white space after it. -/
def blankLine? : Text → Option (Text × Text)
  | '\n' :: s =>
    match s.dropWhile Text.isSpaceOrTab with
    | '\n' :: r => some (['\n'], Text.trimStart r)
    | _ => none
  | _ => none

def closeBlankLines : Text → Text := Text.replaceMatches blankLine?

def repairBody (kind : MathKind) (b : Text) : Text :=
  let b := repairTokens (renameGrid b)
  match kind with
  | .display => closeBlankLines b
  | .inline => inlineBody b

def normalize (s : Text) : Text := Segment.mapMath repairBody (canonicalize s)

end Coursebook.Math
