/-
The parts of links: destinations, titles, labels, and addresses between
angle brackets.
-/
import Coursebook.Markup.Line
import Coursebook.Text.Case
import Coursebook.Text.CharacterReference
import Coursebook.Text.Punctuation

namespace Coursebook.Markup.Link

/-! ## Destinations and titles -/

/-- A text with its character references replaced, and its backslashes removed in front of
punctuation and its carriage returns everywhere. -/
def unescape : Text → Text :=
  Text.replaceMatches fun
    | '\\' :: c :: s => if Text.isAsciiPunctuation c then some ([c], s) else none
    | '\r' :: s => some ([], s)
    | s => Text.reference? s

/-- Parentheses may be nested this deep in a destination. -/
def maxNesting : Nat := 5

/-- Reads a destination in angle brackets, behind the opening one. -/
def bracketed? : Text → Option (Text × Text)
  | [] => none
  | '\\' :: c :: s =>
    if Text.isAsciiPunctuation c then (bracketed? s).map fun (d, r) => ('\\' :: c :: d, r)
    else if c = '\n' ∨ c = '\r' then none
    else (bracketed? s).map fun (d, r) => ('\\' :: c :: d, r)
  | c :: s =>
    if c = '>' then some ([], s)
    else if c = '\n' ∨ c = '\r' ∨ c = '<' then none
    else (bracketed? s).map fun (d, r) => (c :: d, r)

/-- Reads a destination without brackets, up to white space or a parenthesis that it did not open. -/
def bare? : (nesting : Nat) → Text → Option (Text × Text)
  | nesting, [] => if nesting = 0 then some ([], []) else none
  | nesting, '\\' :: c :: s =>
    if Text.isAsciiPunctuation c then (bare? nesting s).map fun (d, r) => ('\\' :: c :: d, r)
    else (bare? nesting (c :: s)).map fun (d, r) => ('\\' :: d, r)
  | nesting, c :: s =>
    if c.toNat ≤ 0x20 then if nesting = 0 then some ([], c :: s) else none
    else if c = '(' then
      if maxNesting < nesting then none else (bare? (nesting + 1) s).map fun (d, r) => (c :: d, r)
    else if c = ')' then
      if nesting = 0 then some ([], c :: s) else (bare? (nesting - 1) s).map fun (d, r) => (c :: d, r)
    else (bare? nesting s).map fun (d, r) => (c :: d, r)
termination_by _ s => s.length

def destination? : Text → Option (Text × Text)
  | '<' :: s => bracketed? s
  | s => bare? 0 s

def titleEnd? : Char → Option Char
  | '"' => some '"'
  | '\'' => some '\''
  | '(' => some ')'
  | _ => none

/-- What follows a title that is read up to its closing mark. `lineEnd?` says where the next line of
the title starts, if the text goes on there. -/
def afterTitleEnd? (lineEnd? : Text → Option Text) (opening closing : Char) : (fuel : Nat) → Text → Option Text
  | 0, _ => none
  | _ + 1, [] => none
  | fuel + 1, c :: s =>
    if c = closing then some s
    else if c = opening then none
    else if c = '\\' then
      match s with
      | d :: s => if Text.isAsciiPunctuation d then afterTitleEnd? lineEnd? opening closing fuel s
        else afterTitleEnd? lineEnd? opening closing fuel (d :: s)
      | [] => none
    else if c = '\n' ∨ c = '\r' then (lineEnd? (c :: s)).bind (afterTitleEnd? lineEnd? opening closing fuel)
    else afterTitleEnd? lineEnd? opening closing fuel s

def afterTitle? (lineEnd? : Text → Option Text) : Text → Option Text
  | [] => none
  | c :: s => (titleEnd? c).bind fun closing => afterTitleEnd? lineEnd? c closing (s.length + 1) s

/-! ## Labels -/

def maxLabel : Nat := 1000

/-- Reads white space in a label, at most one line end: its width, and what follows it. -/
def labelSpace? (nextLine? : Text → Option Text) : (fuel : Nat) → (lineSeen : Bool) → Text → Option (Nat × Text)
  | 0, _, _ => none
  | _ + 1, _, [] => some (0, [])
  | fuel + 1, lineSeen, c :: s =>
    if !isSpace c then some (0, c :: s)
    else match afterLineEnd? (c :: s) with
      | some r => do
        if lineSeen then none
        let (n, r) ← labelSpace? nextLine? fuel true (← nextLine? r)
        return (n + 2, r)
      | none => (labelSpace? nextLine? fuel lineSeen s).map fun (n, r) => (n + (if c = ' ' then 1 else 2), r)

/-- Reads a label behind its opening bracket: the label with every run of white space made one
space, and what follows the closing bracket. `size` is the length read so far. -/
def labelFrom? (nextLine? : Text → Option Text) : (fuel size : Nat) → Text → Option (Text × Text)
  | 0, _, _ => none
  | fuel + 1, size, s => do
    if maxLabel ≤ size then none
    match s with
    | [] => none
    | '[' :: _ => none
    | ']' :: r => return ([], r)
    | '\\' :: c :: r =>
      let (l, r) ← labelFrom? nextLine? fuel (size + 2) r
      return ('\\' :: c :: l, r)
    | c :: s =>
      if isSpace c then
        let (n, r) ← labelSpace? nextLine? (s.length + 2) false (c :: s)
        let (l, r) ← labelFrom? nextLine? fuel (size + n) r
        return (' ' :: l, r)
      let (l, r) ← labelFrom? nextLine? fuel (size + 1) s
      return (c :: l, r)

/-- Reads a label behind its opening bracket; it may not be blank. -/
def label? (nextLine? : Text → Option Text) (s : Text) : Option (Text × Text) := do
  let (l, r) ← labelFrom? nextLine? (s.length + 1) 0 s
  if l.all isSpace then none else some (l, r)

def labelKey (l : Text) : Text := Text.foldCase l

/-! ## Addresses between angle brackets -/

/-- Reads an absolute address behind a `<`: a scheme of 2 to 32 characters, a colon, and no white
space or `<` up to the closing bracket. -/
def address? (s : Text) : Option (Text × Text) :=
  match s with
  | [] => none
  | c :: r =>
    let scheme := r.takeWhile fun c => Text.isAsciiAlphanumeric c || c ∈ ['.', '-', '+']
    match r.drop scheme.length with
    | ':' :: r =>
      if !Text.isAsciiLetter c ∨ scheme.length < 1 ∨ 31 < scheme.length then none
      else
        let inside (c : Char) := c ≠ '>' && c ≠ '<' && 0x20 < c.toNat
        match r.dropWhile inside with
        | '>' :: rest => some (c :: scheme ++ ':' :: r.takeWhile inside, rest)
        | _ => none
    | _ => none

/-- Characters in front of the sign of a mail address. -/
def inMailName (c : Char) : Bool := Text.isAsciiAlphanumeric c || c ∈ ".!#$%&'*+/=?^_`\x7b|\x7d~-".toList

/-- Reads the labels of a domain: letters, digits and inner hyphens, at most 63 in each. -/
def domain? : (fuel : Nat) → Text → Option (Text × Text)
  | 0, _ => none
  | fuel + 1, s =>
    let l := s.takeWhile fun c => Text.isAsciiAlphanumeric c || c = '-'
    if l = [] ∨ l.head? = some '-' ∨ l.getLast? = some '-' ∨ 63 < l.length then none
    else match s.drop l.length with
      | '.' :: r => (domain? fuel r).map fun (more, rest) => (l ++ '.' :: more, rest)
      | r => some (l, r)

/-- Reads a mail address behind a `<`. -/
def mailAddress? (s : Text) : Option (Text × Text) :=
  let name := s.takeWhile inMailName
  match s.drop name.length with
  | '@' :: r =>
    if name = [] then none
    else match domain? (r.length + 1) r with
      | some (d, '>' :: rest) => some (name ++ '@' :: d, rest)
      | _ => none
  | _ => none

def angleAddress? (s : Text) : Option (Text × Text) :=
  match address? s with
  | some a => some a
  | none => mailAddress? s

end Coursebook.Markup.Link
