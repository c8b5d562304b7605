/-
What a check finds in a text, and the verdict that follows from it. Damage
and false identities are fatal; malformed formulas are so when there are
more of them than the options allow.
-/
import Coursebook.Text.Basic

namespace Coursebook.Integrity

/-- Kinds of findings. -/
inductive FindingKind where
  | corruption
  | falseIdentity
  | repetition
  | malformedMath
deriving Repr, DecidableEq

namespace FindingKind

def label : FindingKind → Text
  | corruption => "corrupted-token".toList
  | falseIdentity => "false-identity".toList
  | repetition => "repeated-sentence".toList
  | malformedMath => "malformed-math".toList

def all : List FindingKind := [corruption, falseIdentity, repetition, malformedMath]

/-- Whether a single finding of a kind rejects a text. -/
def isFatal (k : FindingKind) : Bool := k = corruption || k = falseIdentity

end FindingKind

/-- Something found in a text. -/
structure Finding where
  kind : FindingKind
  detail : Text
deriving Repr, DecidableEq

def Finding.line (f : Finding) : Text := '[' :: f.kind.label ++ ']' :: ' ' :: f.detail

/-- How strict a check is: sentences longer than `minSentence` are compared, and more malformed
formulas than `mathThreshold` reject a text. -/
structure Options where
  minSentence : Nat := 20
  mathThreshold : Nat := 3
  checkRepetition : Bool := true
  checkMath : Bool := true
deriving Repr, DecidableEq

/-- Named options. -/
inductive Preset where
  | lenient
  | standard
  | strict
deriving Repr, DecidableEq

def Preset.name : Preset → Text
  | .lenient => "lenient".toList
  | .standard => "standard".toList
  | .strict => "strict".toList

def Options.ofPreset : Preset → Options
  | .lenient => { minSentence := 40, mathThreshold := 6 }
  | .standard => {}
  | .strict => { minSentence := 12, mathThreshold := 0 }

/-- What was found in a text, and whether it has to be rejected. -/
structure Report where
  findings : List Finding
  rejects : Bool
deriving Repr, DecidableEq

namespace Report

def count (k : FindingKind) (fs : List Finding) : Nat := fs.countP fun f => f.kind = k

def fatalCount (r : Report) : Nat := r.findings.countP fun f => f.kind.isFatal

def ofFindings (fs : List Finding) (o : Options) : Report where
  findings := fs
  rejects := (fs.any fun f => f.kind.isFatal) || decide (o.mathThreshold < count .malformedMath fs)

def isClean (r : Report) : Bool := r.findings.isEmpty

end Report

end Coursebook.Integrity
