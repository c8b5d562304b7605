/-
Structure commands lowered to generic markdown: lists, solutions,
headings, emphasis and forced line breaks. The formulas of a text are
masked before any of it, so their characters are never touched.
-/
import Coursebook.Command.Argument
import Coursebook.Command.ListBlock
import Coursebook.Segment.Mask
import Coursebook.Text.WordChar

namespace Coursebook.Command

/-! ## Solutions -/

def solutionName : Text := "solution".toList

def solutionBlock (body : Text) : Text :=
  "\n\n<details class=\"solution\">\n<summary>Solution</summary>\n\n".toList ++ Text.trim body
    ++ "\n\n</details>\n\n".toList

/-- Lowers every solution environment that is closed. -/
def lowerSolutions : Text → Text :=
  Text.replaceMatches fun s => do
    let s ← Text.after? (Environment.openTag solutionName) s
    let (body, r) ← Text.cut? (Environment.closeTag solutionName) s
    return (solutionBlock body, r)

/-! ## Headings and emphasis -/

def headingLevels : List (Text × Nat) := [("section".toList, 2), ("subsection".toList, 3), ("subsubsection".toList, 4)]

def headingBlock (level : Nat) (title : Text) : Text :=
  ['\n', '\n'] ++ List.replicate level '#' ++ ' ' :: Text.collapseBlank title ++ ['\n', '\n']

def lowerHeadings (s : Text) : Text :=
  headingLevels.foldl (fun s (name, level) => replaceCalls name (headingBlock level) s) s

/-- Emphasis commands with the markup on either side of their argument. -/
def emphasisMarkup : List (Text × Text × Text) :=
  [("textbf".toList, "**".toList, "**".toList), ("textit".toList, "*".toList, "*".toList),
    ("emph".toList, "*".toList, "*".toList), ("underline".toList, "<u>".toList, "</u>".toList)]

/-- Marks an argument up inside the white space around it; a blank argument stays as it is. -/
def emphasize (before after arg : Text) : Text :=
  match Text.trim arg with
  | [] => arg
  | inner => Text.leadingBlank arg ++ before ++ inner ++ after ++ Text.trailingBlank arg

def lowerEmphasis (s : Text) : Text :=
  emphasisMarkup.foldl (fun s (name, before, after) => replaceCalls name (emphasize before after) s) s

/-! ## Line breaks -/

def hardBreak : Text := [' ', ' ', '\n']

def dropLineEnd (s : Text) : Text := (Text.afterLineEnd? s).getD s

/-- A text without an optional length in brackets, `[2mm]`, at its head; it stays within a line. -/
def dropSpacing : Text → Text
  | '[' :: s =>
    match s.dropWhile (fun c => c ≠ ']' ∧ c ≠ '\n') with
    | ']' :: r => r
    | _ => '[' :: s
  | s => s

def breakCommand? : Text → Option Text
  | '\\' :: '\\' :: s => some (dropSpacing s)
  | s => do
    let r ← Text.after? "\\newline".toList s
    if Text.endsWord r then some r else none

/-- Reads a forced line break, with the spaces and the line ending that follow it. -/
def lineBreak? (s : Text) : Option (Text × Text) :=
  (breakCommand? s).map fun r => (hardBreak, dropLineEnd (r.dropWhile Text.isSpaceOrTab))

def lowerLineBreaks : Text → Text := Text.replaceMatches lineBreak?

/-! ## Blank lines -/

/-- The number of blank lines at the head of a text, and what follows them. -/
def skipBlankLines (s : Text) : Nat × Text :=
  match _h : s.dropWhile Text.isSpaceOrTab with
  | '\n' :: r => let (n, t) := skipBlankLines r; (n + 1, t)
  | _ => (0, s)
termination_by s.length
decreasing_by
  have := (List.dropWhile_sublist Text.isSpaceOrTab (l := s)).length_le
  rw [_h] at this
  simp at this
  omega

/-- Reads a line ending with two or more blank lines behind it. -/
def extraBlankLines? : Text → Option (Text × Text)
  | '\n' :: s =>
    match skipBlankLines s with
    | (_ + 2, r) => some (['\n', '\n'], r)
    | _ => none
  | _ => none

def closeBlankLines : Text → Text := Text.replaceMatches extraBlankLines?

/-! ## All of it -/

def lowerProse (s : Text) : Text :=
  closeBlankLines (lowerLineBreaks (lowerEmphasis (lowerHeadings (lowerSolutions (ListBlock.renderAll s)))))

/-- Lowers the structure commands of a text, its formulas left as they are. -/
def normalize (s : Text) : Text := Segment.mapProse lowerProse s

end Coursebook.Command
