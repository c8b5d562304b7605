/-
The check of a generated text: damage, false identities, sentences that are
repeated, and malformed formulas, in this order.
-/
import Coursebook.Integrity.Corruption
import Coursebook.Integrity.Formula
import Coursebook.Integrity.Identity
import Coursebook.Integrity.Report
import Coursebook.Math.Delimiter
import Coursebook.Text.Utf8

namespace Coursebook.Integrity

def maxExcerpt : Nat := 60

/-- The start of a text on one line, with an ellipsis if it goes on. -/
def excerpt (s : Text) : Text :=
  let line := s.map fun c => if Text.isControl c then ' ' else c
  if line.length ≤ maxExcerpt then line else line.take maxExcerpt ++ ['…']

/-! ## Sentences -/

def endsSentence (c : Char) : Bool := c = '.' || c = '!' || c = '?'

/-- What follows the end of a sentence: marks, and white space or the end of the text behind them. -/
def afterSentenceEnd? (s : Text) : Option Text :=
  match Text.span endsSentence s with
  | ([], _) => none
  | (_, []) => some []
  | (_, c :: r) => if Text.isBlank c then some (Text.trimStart r) else none

/-- The sentences of a text. `before` is what was read of the first, backwards. -/
def sentencesFrom (before : Text) : (fuel : Nat) → Text → List Text
  | 0, s => [before.reverse ++ s]
  | _ + 1, [] => [before.reverse]
  | fuel + 1, c :: s =>
    match afterSentenceEnd? (c :: s) with
    | some r => before.reverse :: sentencesFrom [] fuel r
    | none => sentencesFrom (c :: before) fuel s

/-- The sentences of a text, without white space at their ends. -/
def sentences (s : Text) : List Text := (sentencesFrom [] (s.length + 1) s).map Text.trim

/-- The texts that come up again behind their first occurrence, each where it does so first. -/
def repeated (seen reported : List Text) : List Text → List Text
  | [] => []
  | s :: more =>
    if s ∈ seen then
      if s ∈ reported then repeated seen reported more else s :: repeated seen (s :: reported) more
    else repeated (s :: seen) reported more

/-! ## Findings -/

def corruptionFindings (s : Text) : List Finding :=
  Corruption.catalogue.flatMap fun e => (e.findAll s).map fun m =>
    ⟨.corruption, e.name ++ " at byte ".toList ++ Text.ofNat (Text.byteOffset s m.start)⟩

def identityFindings (s : Text) : List Finding :=
  Identity.catalogue.flatMap fun i => (i.findAll s).map fun found =>
    ⟨.falseIdentity, i.name ++ ": ".toList ++ excerpt found⟩

def repetitionFindings (minSentence : Nat) (s : Text) : List Finding :=
  (repeated [] [] ((sentences s).filter fun t => minSentence < t.length)).map fun t =>
    ⟨.repetition, "repeated sentence: ".toList ++ excerpt t⟩

def mathFindings (s : Text) : List Finding :=
  ((Segment.split (Math.canonicalize s)).filter Segment.isMath).flatMap fun m =>
    (Formula.problems m.body).map fun p => ⟨.malformedMath, p.message ++ " in ".toList ++ excerpt m.raw⟩

def findings (o : Options) (s : Text) : List Finding :=
  corruptionFindings s ++ identityFindings s
    ++ (if o.checkRepetition then repetitionFindings o.minSentence s else [])
    ++ (if o.checkMath then mathFindings s else [])

def check (o : Options) (s : Text) : Report := .ofFindings (findings o s) o

end Coursebook.Integrity
