/-
False identities known from generated text.

An entry reads the shape of an identity; whether that is a false one hangs
on its operands, which have to be the same on both sides, and on what
follows it. The square of a sum can be corrected: its cross term is missing.
-/
import Coursebook.Text.Pattern

namespace Coursebook

open Text (Step)

/-- A false identity: the pattern of its shape, and whether what the pattern keeps makes it false. -/
structure Identity where
  name : Text
  pattern : List Step
  isFalse : List Text → Bool

namespace Identity

/-! ## Patterns -/

def char (c : Char) : Step := .exactly [c]

def operand : Step := .character Text.isAsciiAlphanumeric

def squared : List Step := [char '^', .blank, .maybe '{', .blank, char '2', .blank, .maybe '}']

/-- A pattern with white space allowed between its parts. -/
def spaced (parts : List (List Step)) : List Step := List.flatten (parts.intersperse [.blank])

def sumIn (opening closing : Char) : List Step :=
  spaced [[char opening], [operand], [char '+'], [operand], [char closing]]

def operandIn (opening closing : Char) (operand : Step) : List Step :=
  [.maybe opening, .blank, operand, .blank, .maybe closing]

/-- Whether two pairs of operands are the same in some order. -/
def samePair (a b c d : Text) : Bool := (a = c && b = d) || (a = d && b = c)

/-! ## Entries -/

def squareOfSum : Identity where
  name := "square-of-sum".toList
  pattern :=
    spaced [sumIn '(' ')', squared, [char '='], [operand], squared, [char '+'], [operand], squared]
      ++ [.followedBy fun c => c = '+' || c = '-']
  isFalse
    | [a, b, c, d, sign] => samePair a b c d && sign = []
    | _ => false

def rootOfSum : Identity where
  name := "root-of-sum".toList
  pattern :=
    let root := Step.exactly "\\sqrt".toList
    let term := spaced [[root], operandIn '{' '}' operand]
    spaced [[root], sumIn '{' '}', [char '='], term, [char '+'], term]
  isFalse
    | [a, b, c, d] => samePair a b c d
    | _ => false

/-- The logarithm of a sum as the sum of the logarithms. -/
def logarithmOfSum : Identity where
  name := "log-of-sum".toList
  pattern :=
    let logarithm := [char '\\', .oneOf ["ln".toList, "log".toList]]
    let term := spaced [logarithm, operandIn '(' ')' operand]
    spaced [logarithm, sumIn '(' ')', [char '='], term, [char '+'], term]
  isFalse
    | [_, a, b, _, c, _, d] => samePair a b c d
    | _ => false

def continuesTerm (c : Char) : Bool := Text.isAsciiAlphanumeric c || c ∈ ['+', '-', '*', '/', '^', '\\']

/-- One as the difference of the squares of sine and cosine. -/
def pythagoreanDifference : Identity where
  name := "pythagorean-minus".toList
  pattern :=
    let term := spaced [[char '\\', .oneOf ["sin".toList, "cos".toList]], squared, operandIn '(' ')' .symbol]
    spaced [term, [char '-'], term, [char '='], [char '1']] ++ [.followedBy continuesTerm]
  isFalse
    | [f, x, g, y, more] => f ≠ g && x = y && more = []
    | _ => false

def catalogue : List Identity := [squareOfSum, rootOfSum, logarithmOfSum, pythagoreanDifference]

/-! ## Finding and correcting -/

/-- Reads the shape of an identity at the head of a text: what the pattern keeps, and what follows. -/
def read? (i : Identity) (s : Text) : Option (List Text × Text) := Step.readAll i.pattern s

/-- The false identities of a kind in a text, as they stand there. -/
def findAll (i : Identity) (s : Text) : List Text :=
  ((Text.findAll i.read? s).filter fun m => i.isFalse m.value).map fun m => Text.trimEnd (Text.slice s m.start m.stop)

def crossTerm (a b : Text) : Text :=
  if (a ++ b).all Text.isAsciiLetter then '2' :: a ++ b else "2 \\cdot ".toList ++ a ++ " \\cdot ".toList ++ b

/-- The square of a sum with its cross term, if the identity at the head of a text lacks it, and what
follows. An identity that is no false one stays as it is. -/
def corrected? (s : Text) : Option (Text × Text) := do
  let (kept, r) ← squareOfSum.read? s
  let whole := s.take (s.length - r.length)
  match kept with
  | a :: b :: _ =>
    if squareOfSum.isFalse kept then
      let left := whole.takeWhile (· ≠ '=')
      return (left ++ "= ".toList ++ a ++ "^2 + ".toList ++ crossTerm a b ++ " + ".toList ++ b ++ "^2".toList, r)
    else return (whole, r)
  | _ => none

def correctSquares : Text → Text := Text.replaceMatches corrected?

def falseSquares (s : Text) : Nat := (squareOfSum.findAll s).length

end Identity

end Coursebook
