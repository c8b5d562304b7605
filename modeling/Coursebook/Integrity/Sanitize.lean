/-
Repair of a generated text, and its admission. A text is repaired before it
is checked, and one that has to be rejected after that is refused.
-/
import Coursebook.Integrity.Check
import Coursebook.Text.Normal

namespace Coursebook.Integrity

def repairAll (s : Text) : Text := Corruption.catalogue.foldl (fun s e => e.repair s) s

/-- A text with closing braces for those that it leaves open. A backslash at its end would escape the
first of them, so a space comes in between. -/
def closeBraces (s : Text) : Text :=
  match Command.braceBalance s with
  | .ofNat (n + 1) =>
    let escapes := (s.reverse.takeWhile (· = '\\')).length % 2 = 1
    s ++ (if escapes then [' '] else []) ++ List.replicate (n + 1) '}'
  | _ => s

/-- Repairs a text. What is taken out may leave two characters that belong together, so the text is
normalized before and after. -/
def sanitize (s : Text) : Text := closeBraces (Text.normalize (Identity.correctSquares (repairAll (Text.normalize s))))

/-- Why a text was refused: how much was found in it, and how much of that was fatal. -/
structure Rejection where
  findings : Nat
  fatal : Nat
deriving Repr, DecidableEq

def accept (o : Options) (s : Text) : Except Rejection Text :=
  let s := sanitize s
  let report := check o s
  if report.rejects then .error ⟨report.findings.length, report.fatalCount⟩ else .ok s

end Coursebook.Integrity
