/-
Damage known from generated text, and its repair.

Most of it comes from a backslash that was taken for an escape: the form
feed in front of `rac` was once the start of a control word. An entry says
how the damage looks, in front of what it is no damage, and what was meant.
-/
import Coursebook.Text.WordChar

namespace Coursebook

/-- A kind of damage. `read?` reads it at the head of a text and answers with what was meant and what
follows; behind a character of `guard` it is no damage. -/
structure Corruption where
  name : Text
  read? : Text → Option (Text × Text)
  guard : Char → Bool

namespace Corruption

/-! ## Reading damage -/

/-- Reads one of several words at the head of a text; `whole` asks for the end of a word behind it. -/
def readWord? (whole : Bool) (words : List String) (s : Text) : Option (Text × Text) :=
  words.findSome? fun w =>
    match Text.after? w.toList s with
    | some r => if whole && !Text.endsWord r then none else some (w.toList, r)
    | none => none

/-- A character that was taken for the start of a control word, in front of the rest of that word. -/
def ofControl (name : String) (control letter : Char) (whole : Bool) (words : List String) : Corruption where
  name := name.toList
  read?
    | c :: s => if c = control then (readWord? whole words s).map fun (w, r) => ('\\' :: letter :: w, r) else none
    | [] => none
  guard _ := false

/-- A character that stands for one that could not be read. -/
def replacementCharacter : Corruption where
  name := "replacement-character".toList
  read?
    | '\uFFFD' :: s => some ([], s)
    | _ => none
  guard _ := false

/-- A fraction without its backslash and its first letter. -/
def bareFraction : Corruption where
  name := "bare-frac".toList
  read? s := (Text.after? ['r', 'a', 'c', '{'] s).map fun r => (['\\', 'f', 'r', 'a', 'c', '{'], r)
  guard c := Text.isAsciiLetter c || c = '\\'

def doubledBackslash : Corruption where
  name := "doubled-escape".toList
  read?
    | '\\' :: '\\' :: s =>
      (readWord? true ["frac", "sqrt", "times", "cdot", "left", "right", "begin", "end"] s).map
        fun (w, r) => ('\\' :: w, r)
    | _ => none
  guard c := c = '\\'

/-- The known kinds of damage in the order in which they are repaired. What stands for an unreadable
character comes first, for what it parts may be damage of another kind. -/
def catalogue : List Corruption :=
  [replacementCharacter,
    ofControl "form-feed-escape" '\x0c' 'f' false ["rac", "orall"],
    ofControl "tab-escape" '\t' 't' true ["imes", "extbf", "extit", "ext", "heta", "frac"],
    ofControl "backspace-escape" '\x08' 'b' false ["eta", "ar", "egin", "oxed", "inom"],
    ofControl "carriage-return-escape" '\r' 'r' true ["ightarrow", "ho", "ight", "angle"],
    ofControl "newline-escape" '\n' 'n' true ["eq", "abla", "otin"],
    bareFraction,
    doubledBackslash]

/-! ## Finding and repairing -/

/-- Whether the guard lets damage at a position pass. -/
def guarded (e : Corruption) (s : Text) (start : Nat) : Bool :=
  match start with
  | 0 => false
  | before + 1 => s[before]?.any e.guard

/-- The damage of a kind in a text, each with what was meant. -/
def findAll (e : Corruption) (s : Text) : List (Text.Match Text) :=
  (Text.findAll e.read? s).filter fun m => !e.guarded s m.start

/-- A text from the position `cursor` on, with what was meant in place of the damage. -/
def repairFrom (s : Text) (cursor : Nat) : List (Text.Match Text) → Text
  | [] => s.drop cursor
  | m :: ms => Text.slice s cursor m.start ++ m.value ++ repairFrom s m.stop ms

def repair (e : Corruption) (s : Text) : Text := repairFrom s 0 (e.findAll s)

/-- A text from the position `cursor` on, repaired in one pass over the matches of a kind: what the guard
stops is passed over. The number counts the repairs. -/
def repairEach (e : Corruption) (s : Text) (cursor : Nat) : List (Text.Match Text) → Text × Nat
  | [] => (s.drop cursor, 0)
  | m :: ms =>
    if e.guarded s m.start then e.repairEach s cursor ms
    else
      let (t, n) := e.repairEach s m.stop ms
      (Text.slice s cursor m.start ++ m.value ++ t, n + 1)

/-- A repaired text, and the number of repairs. -/
def repairCounted (e : Corruption) (s : Text) : Text × Nat := e.repairEach s 0 (Text.findAll e.read? s)

end Corruption

end Coursebook
