/-
What may be wrong with the body of a formula: braces, missing arguments,
delimiters and environments that do not pair up.
-/
import Coursebook.Command.Balance
import Coursebook.Math.Environment
import Coursebook.Text.Blank
import Coursebook.Text.WordChar

namespace Coursebook.Formula

/-- Something wrong with a formula. -/
inductive Problem where
  | unbalanced (balance : Int)
  | missingArgument (word : Text)
  | missingRadicand
  | unpaired (lefts rights : Nat)
  | unclosed (environment : Text)
deriving Repr, DecidableEq

namespace Problem

def quoted (s : Text) : Text := '\x60' :: s ++ ['\x60']

def signed (n : Int) : Text := if 0 ≤ n then '+' :: Text.ofInt n else Text.ofInt n

def message : Problem → Text
  | unbalanced n => "unbalanced braces (".toList ++ signed n ++ [')']
  | missingArgument word => quoted word ++ " missing an argument".toList
  | missingRadicand => quoted "\\sqrt".toList ++ " missing its radicand".toList
  | unpaired lefts rights =>
    Text.ofNat lefts ++ ' ' :: quoted "\\left".toList ++ " for ".toList ++ Text.ofNat rights ++ ' ' :: quoted "\\right".toList
  | unclosed name => quoted (Environment.openTag name) ++ " without ".toList ++ quoted (Environment.closeTag name)

end Problem

/-! ## Arguments -/

/-- What follows the argument at the head of a text: a group, a control word, an escaped character or
a single one. A sign that joins or ends something is no argument. -/
def afterArgument? (s : Text) : Option Text :=
  match Text.trimStart s with
  | [] => none
  | '{' :: s => (Command.cutArgument? s).map (·.2)
  | '\\' :: s =>
    match s.takeWhile Text.isAsciiLetter with
    | [] => some s.tail
    | _ => some (s.dropWhile Text.isAsciiLetter)
  | c :: s => if c ∈ ['}', '&', '^', '_', '$'] then none else some s

/-- What follows options in brackets; nothing if the brackets are not closed. -/
def afterOptions (s : Text) : Text :=
  match Text.trimStart s with
  | '[' :: s => ((s.dropWhile (· ≠ ']')).tail)
  | s => s

/-! ## Control words -/

/-- Reads one of several control words: the word, and what follows it. -/
def controlWord? (words : List Text) (s : Text) : Option (Text × Text) :=
  words.findSome? fun w =>
    match Text.after? ('\\' :: w) s with
    | some r => if Text.endsWord r then some ('\\' :: w, r) else none
    | none => none

/-- What follows each place where one of several control words stands, with the word. -/
def wordsIn (words : List Text) (s : Text) : List (Text × Text) :=
  (Text.findAll (fun s => (controlWord? words s).map fun (w, r) => ((w, r), r)) s).map (·.value)

def fractions : List Text := ["frac".toList, "dfrac".toList, "tfrac".toList]

/-- Reads the tag of an environment: whether it opens one, its name, and what follows. -/
def tag? (s : Text) : Option ((Bool × Text) × Text) :=
  let name? (s : Text) : Option (Text × Text) :=
    match Text.span (fun c => c ≠ '{' && c ≠ '}') s with
    | (name, '}' :: r) => some (name, r)
    | _ => none
  match Text.after? Environment.beginMark s with
  | some s => (name? s).map fun (name, r) => ((true, name), r)
  | none => ((Text.after? Environment.endMark s).bind name?).map fun (name, r) => ((false, name), r)

def depth (name : Text) (tags : List (Bool × Text)) : Int :=
  tags.foldl (fun n (opens, name') => if name' = name then if opens then n + 1 else n - 1 else n) 0

/-- The names of the environments that are opened more often than closed, in the order in which they
first appear. -/
def unclosedNames (s : Text) : List Text :=
  let tags := (Text.findAll tag? s).map (·.value)
  (tags.map (·.2)).eraseDups.filter fun name => 0 < depth name tags

/-! ## All problems -/

def problems (s : Text) : List Problem :=
  let balance := Command.braceBalance s
  let incomplete := (wordsIn fractions s).filter fun (_, r) => ((afterArgument? r).bind afterArgument?).isNone
  let empty := (wordsIn ["sqrt".toList] s).filter fun (_, r) => (afterArgument? (afterOptions r)).isNone
  let lefts := (wordsIn ["left".toList] s).length
  let rights := (wordsIn ["right".toList] s).length
  (if balance = 0 then [] else [.unbalanced balance])
    ++ incomplete.map (fun (w, _) => .missingArgument w)
    ++ empty.map (fun _ => .missingRadicand)
    ++ (if lefts = rights then [] else [.unpaired lefts rights])
    ++ (unclosedNames s).map .unclosed

end Coursebook.Formula
