/-
What stands in the text of a paragraph or heading: links, code, formulas,
HTML and breaks, with the delimiters of emphasis still undecided.

The tokens are read from left to right. Code, formulas and HTML take the
tokens up to their end away from everything else. Brackets are kept on a
stack until a closing one shows whether they are a link; a link may not
hold another link, so it disables the brackets around it.
-/
import Coursebook.Markup.Token
import Coursebook.Segment

namespace Coursebook.Markup

/-- What stands in a line. -/
inductive Inline where
  | text (t : Text)
  | code (source : Text)
  | math (kind : MathKind) (source : Text)
  | html (html : Text)
  | softBreak
  | hardBreak (backslash : Bool)
  | delimiter (char : Char) (length : Nat) (opens closes : Bool)
  | link (url : Text) (children : List Inline)
  | image (url : Text) (children : List Inline)
deriving Inhabited

/-! ## Text over several lines -/

/-- A text whose line ends are replaced and followed at once by what stands behind the containers. -/
def Leaf.joinLines (leaf : Leaf) (lineEnd : Char → Char) : (fuel : Nat) → Text → Text
  | 0, _ => []
  | _ + 1, [] => []
  | fuel + 1, c :: s =>
    if c = '\n' ∨ c = '\r' then lineEnd c :: leaf.joinLines lineEnd fuel (behindContainers leaf.containers s)
    else c :: leaf.joinLines lineEnd fuel s

def Leaf.mathText (leaf : Leaf) (s : Text) : Text := leaf.joinLines id (s.length + 1) s

/-- The text of inline code: line ends are spaces, and one space at either end is left out, unless
there are only spaces. -/
def Leaf.codeText (leaf : Leaf) (s : Text) : Text :=
  let t := leaf.joinLines (fun _ => ' ') (s.length + 1) s
  if t.head? = some ' ' ∧ t.getLast? = some ' ' ∧ t.any (· ≠ ' ') then t.tail.dropLast else t

/-! ## Targets of links -/

/-- What follows the white space inside the target of a link, which may hold one line end. -/
def Leaf.targetSpace (leaf : Leaf) (s : Text) : Text :=
  let s := s.dropWhile isInnerSpace
  match s, afterLineEnd? s with
  | [], _ | _, none => s
  | _, some r => (behindContainers leaf.containers r).dropWhile isInnerSpace

/-- Reads a target in parentheses: destination, perhaps a title, and what follows. -/
def Leaf.target? (leaf : Leaf) (s : Text) : Option (Text × Text) := do
  match s with
  | '(' :: s =>
    let (destination, s) ← Link.destination? (leaf.targetSpace s)
    let s := leaf.targetSpace s
    let s := match Link.afterTitle? (fun s => (afterLineEnd? s).map leaf.behindMargin) s with
      | some s => leaf.targetSpace s
      | none => s
    match s with
    | ')' :: s => return (Link.unescape destination, s)
    | _ => none
  | _ => none

def Leaf.label? (leaf : Leaf) (s : Text) : Option (Text × Text) :=
  Link.label? (fun s => some (behindContainers leaf.containers s)) s

/-- The destinations of the labels that a text defines. -/
abbrev Definitions := List (Text × Text)

def Definitions.find? (definitions : Definitions) (label : Text) : Option Text := definitions.lookup (Link.labelKey label)

/-! ## Brackets -/

/-- An open bracket, whether it can still be a link, and what stands in front of it, latest first. -/
structure Bracket where
  token : Token
  isImage : Bool
  disabled : Bool
  before : List Inline

/-- What has been read: the open brackets, innermost first, and what follows the innermost, latest
first. -/
structure Line where
  brackets : List Bracket
  items : List Inline

namespace Line

def empty : Line := ⟨[], []⟩

def add (l : Line) (i : Inline) : Line := { l with items := i :: l.items }

def openBracket (l : Line) (token : Token) (isImage : Bool) : Line := ⟨⟨token, isImage, false, l.items⟩ :: l.brackets, []⟩

def dropBracket (l : Line) : Line :=
  match l.brackets with
  | [] => l
  | b :: more => ⟨more, l.items ++ .text b.token.literal :: b.before⟩

/-- Takes the innermost bracket as a link or an image. -/
def link (l : Line) (url : Text) : Line :=
  match l.brackets with
  | [] => l
  | b :: more =>
    if b.isImage then ⟨more, .image url l.items.reverse :: b.before⟩
    else ⟨more.map fun b => if b.isImage then b else { b with disabled := true }, .link url l.items.reverse :: b.before⟩

/-- Gives up all brackets and gives the pieces in order. -/
def finish (l : Line) : List Inline := (l.brackets.foldl (fun l _ => l.dropBracket) l).items.reverse

end Line

/-! ## What ends where -/

/-- The tokens behind a place; the first begins there. -/
def skipTo (place : Nat) (tokens : List Token) : List Token :=
  match tokens.dropWhile (·.stop ≤ place) with
  | t :: more => t.startAt place :: more
  | [] => []

/-- Finds the ticks that end inline code: the token and those behind it. -/
def closingTicks? (length : Nat) : List Token → Option (Token × List Token)
  | [] => none
  | t :: more =>
    match t.kind with
    | .ticks _ => if t.length = length then some (t, more) else closingTicks? length more
    | _ => closingTicks? length more

/-- Finds the first dollar sign in the same braces: the token, whether it can close, and the tokens
behind it. -/
def nextDollar? (braces : Nat) : List Token → Option (Token × Bool × List Token)
  | [] => none
  | t :: more =>
    match t.kind with
    | .dollar _ closes b => if b = braces then some (t, closes, more) else nextDollar? braces more
    | _ => nextDollar? braces more

def between (first last : Token) : Text := first.behind.take (last.start - first.stop)

/-- Reads a formula behind the dollar sign that opens it: one more makes it a display formula. The
first dollar sign in the same braces has to end it. -/
def Leaf.formula? (leaf : Leaf) (first : Token) (braces : Nat) (tokens : List Token) :
    Option (Inline × List Token) := do
  match tokens with
  | second :: tokens' =>
    if second.isDollar then
      let (last, _, behind) ← nextDollar? braces tokens'
      match behind with
      | t :: behind => if t.isDollar then return (.math .display (leaf.mathText (between second last)), behind) else none
      | [] => none
    else
      let (last, closes, behind) ← nextDollar? braces tokens
      if closes then return (.math .inline (leaf.mathText (between first last)), behind) else none
  | [] => none

/-- What a closing bracket ends: the address of a link and the tokens behind it, or no link, with
the tokens to go on with. -/
inductive Closing where
  | link (url : Text) (behind : List Token)
  | text (behind : List Token)

/-- Decides what a closing bracket ends. A target in parentheses comes first, then a label in
brackets, then the text in the brackets itself. A label without a definition is not tried again. -/
def Leaf.closing (leaf : Leaf) (definitions : Definitions) (opening closing : Token) (alone : Bool)
    (tokens : List Token) : Closing :=
  match leaf.target? closing.behind with
  | some (url, rest) => .link url (skipTo (closing.stop + (closing.behind.length - rest.length)) tokens)
  | none =>
    match (match closing.behind with
      | '[' :: s => leaf.label? s
      | _ => none) with
    | some (label, rest) =>
      let stop := closing.stop + (closing.behind.length - rest.length)
      match tokens.dropWhile (·.stop ≤ stop - 1) with
      | [] => .text tokens
      | last :: behind =>
        match definitions.find? label with
        | some url => .link url behind
        | none => .text (tokens.takeWhile (·.stop ≤ stop - 1) ++ { last with kind := .closeBracket false } :: behind)
    | none =>
      if !alone then .text tokens
      else
        let behind := if Text.startsWith ['[', ']'] closing.behind then tokens.drop 2 else tokens
        let source := opening.behind.take (closing.stop - opening.stop)
        match leaf.label? source with
        | some (label, []) =>
          match definitions.find? label with
          | some url => .link url behind
          | none => .text tokens
        | _ => .text tokens

/-! ## Reading -/

/-- Takes the first token, and with it those that belong to it: the line with what they are, and the
tokens behind them. -/
def Leaf.takeToken (leaf : Leaf) (definitions : Definitions) (l : Line) (t : Token) (tokens : List Token) :
    Line × List Token :=
  match t.kind with
  | .text => (l.add (.text t.literal), tokens)
  | .reference value => (l.add (.text value), tokens)
  | .delimiter c opens closes => (l.add (.delimiter c (runLength c t.source) opens closes), tokens)
  | .softBreak => (l.add .softBreak, tokens)
  | .hardBreak backslash => (l.add (.hardBreak backslash), tokens)
  | .openBracket isImage => (l.openBracket t isImage, tokens)
  | .closeBracket alone =>
    match l.brackets with
    | [] => (l.add (.text t.literal), tokens)
    | b :: _ =>
      match if b.disabled then .text tokens else leaf.closing definitions b.token t alone tokens with
      | .link url behind => (l.link url, behind)
      | .text behind => (l.dropBracket.add (.text t.literal), behind)
  | .dollar opens _ braces =>
    match if opens then leaf.formula? t braces tokens else none with
    | some (formula, behind) => (l.add formula, behind)
    | none => (l.add (.text t.literal), tokens)
  | .ticks escaped =>
    let length := if escaped then t.length - 1 else t.length
    match if length = 0 then none else closingTicks? length tokens with
    | some (last, behind) =>
      let l := if escaped then l.add (.text (t.literal.take 1)) else l
      (l.add (.code (leaf.codeText (between t last))), behind)
    | none => (l.add (.text t.literal), tokens)
  | .angle =>
    let s := t.source.tail
    match Link.angleAddress? s with
    | some (url, rest) => (l.add (.link url [.text url]), skipTo (t.start + 1 + (s.length - rest.length)) tokens)
    | none =>
      match HtmlTag.inline? (behindContainers leaf.containers) s with
      | some (html, rest) =>
        (l.add (.html ('<' :: html)), skipTo (t.start + 1 + (s.length - rest.length)) tokens)
      | none => (l.add (.text t.literal), tokens)

def Leaf.inlinesFrom (leaf : Leaf) (definitions : Definitions) : (fuel : Nat) → Line → List Token → Line
  | 0, l, _ => l
  | _ + 1, l, [] => l
  | fuel + 1, l, t :: tokens =>
    let (l, behind) := leaf.takeToken definitions l t tokens
    leaf.inlinesFrom definitions fuel l behind

/-- What stands in the text of a paragraph or heading. -/
def Leaf.inlines (leaf : Leaf) (definitions : Definitions) (s : Text) : List Inline :=
  let tokens := leaf.tokens s
  (leaf.inlinesFrom definitions (tokens.length + 1) .empty tokens).finish

end Coursebook.Markup
