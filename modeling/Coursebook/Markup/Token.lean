/-
The tokens of the text of a paragraph or heading: plain text, and the
characters that may mean something inside a line, before it is known
whether they do.

A token keeps its place in the source and the source from there on, for a
link or a tag may reach over many tokens, and a token that turns out to
mean nothing is shown as it is written. The lines of the text are joined
here: what containers put in front of a line and the indentation of the
line are passed over.
-/
import Coursebook.Markup.Block

namespace Coursebook.Markup

/-! ## Tokens -/

/-- What a token may turn out to be. -/
inductive TokenKind where
  | text
  | reference (value : Text)
  | delimiter (char : Char) (opens closes : Bool)
  | dollar (opens closes : Bool) (braces : Nat)
  | ticks (escaped : Bool)
  | angle
  | openBracket (isImage : Bool)
  | closeBracket (alone : Bool)
  | softBreak
  | hardBreak (backslash : Bool)
deriving Repr, DecidableEq

/-- A token: what it may be, where it stands, how long it is, and the source from its start. -/
structure Token where
  kind : TokenKind
  start : Nat
  length : Nat
  source : Text

namespace Token

def stop (t : Token) : Nat := t.start + t.length

def literal (t : Token) : Text := t.source.take t.length

def behind (t : Token) : Text := t.source.drop t.length

/-- Moves the start of a token to a place, if that is further on. -/
def startAt (place : Nat) (t : Token) : Token :=
  if place ≤ t.start then t
  else { t with start := place, length := t.stop - place, source := t.source.drop (place - t.start) }

def isDollar (t : Token) : Bool :=
  match t.kind with
  | .dollar .. => true
  | _ => false

end Token

/-! ## Braces -/

/-- The braces around a place: a number for each that is open, the innermost first, and the next
number. Two places have the same innermost number if the braces between them are balanced. -/
structure Braces where
  opened : List Nat
  next : Nat

namespace Braces

def outside : Braces := ⟨[0], 1⟩

def number (b : Braces) : Nat := b.opened.headD 0

/-- Passes a character. A closing brace without an opening one leads to a new place. -/
def pass (b : Braces) (c : Char) : Braces :=
  if c = '\x7b' then ⟨b.next :: b.opened, b.next + 1⟩
  else if c = '\x7d' then
    match b.opened with
    | _ :: outer :: more => { b with opened := outer :: more }
    | _ => ⟨[b.next], b.next + 1⟩
  else b

end Braces

/-! ## Delimiters -/

/-- Whether a run of `n` delimiters can open emphasis: something follows it closely, and it does not
stand between two words unless the delimiter may. `before` is the line in front of it, backwards. -/
def delimiterOpens (before : Text) (c : Char) (n : Nat) (behind : Text) : Bool :=
  match behind with
  | [] => false
  | next :: _ =>
    if Text.isBlank next then false
    else match before with
      | [] => true
      | previous :: _ =>
        (c = '*' && !Text.isPunctuation next) || (c = '~' && decide (1 < n))
          || (c = '~' && previous = '~' && !Text.isPunctuation next)
          || Text.isBlank previous || Text.isPunctuation previous

/-- Whether a run of `n` delimiters can close emphasis: it closely follows something, and it does not
stand between two words unless the delimiter may. -/
def delimiterCloses (before : Text) (c : Char) (n : Nat) (behind : Text) : Bool :=
  match before with
  | [] => false
  | previous :: _ =>
    if Text.isBlank previous then false
    else match behind with
      | [] => true
      | next :: _ =>
        ((c = '*' || (c = '~' && decide (1 < n))) && !Text.isPunctuation previous) || (c = '~' && previous = '~')
          || Text.isBlank next || Text.isPunctuation next

/-! ## Reading tokens -/

/-- A text to be read: the containers around it, whether tildes strike through, and whether it is
the title of a heading. -/
structure Leaf where
  containers : List Container
  strikethrough : Bool
  isTitle : Bool

/-- What stands at the head of a text: plain characters; a backslash with the character that it takes
the meaning from; or a token. -/
inductive Head where
  | plain (length : Nat)
  | escaped
  | token (kind : TokenKind) (length : Nat)

/-- Looks at the head of a text that is not at a line end. -/
def Leaf.head (leaf : Leaf) (before : Text) (braces : Braces) (s : Text) : Head :=
  match s with
  | [] => .plain 0
  | '\\' :: c :: _ => if Text.isAsciiPunctuation c then .escaped else .plain 1
  | '<' :: '\\' :: _ => .plain 1
  | '<' :: _ => .token .angle 1
  | '!' :: '[' :: _ => .token (.openBracket true) 2
  | '[' :: _ => .token (.openBracket false) 1
  | ']' :: _ => .token (.closeBracket true) 1
  | '&' :: _ =>
    match Text.reference? s with
    | some (value, rest) => .token (.reference value) (s.length - rest.length)
    | none => .plain 1
  | '$' :: r =>
    .token (.dollar (!(r.headD ' ' |> isSpace)) (!(before.headD ' ' |> isSpace)) braces.number) 1
  | c :: _ =>
    if c = '\x60' then .token (.ticks false) (runLength c s)
    else if c = '*' ∨ c = '_' ∨ (c = '~' ∧ leaf.strikethrough = true) then
      let n := runLength c s
      let opens := delimiterOpens before c n (s.drop n)
      let closes := delimiterCloses before c n (s.drop n)
      if (opens || closes) && (c ≠ '~' || decide (n ≤ 2)) then .token (.delimiter c opens closes) n else .plain n
    else .plain 1

/-- The plain text that has been begun, if there is one: its start, and the source from there. -/
abbrev Begun := Option (Nat × Text)

def Begun.endAt (place : Nat) : Begun → List Token
  | some (start, source) => if start < place then [⟨.text, start, place - start, source⟩] else []
  | none => []

/-- The kind of break at a line end behind a line, and the number of characters of the line that
belong to it. -/
def breakBehind (before : Text) : TokenKind × Nat :=
  let spaces := (before.takeWhile isInnerSpace).length
  if runLength '\\' before % 2 = 1 then (.hardBreak true, 1)
  else if 2 ≤ spaces then (.hardBreak false, spaces)
  else (.softBreak, spaces)

/-- What is left of a line behind its containers and its indentation. -/
def Leaf.behindMargin (leaf : Leaf) (s : Text) : Text :=
  (behindContainers leaf.containers s).dropWhile fun c => c = ' ' || c = '\t'

/-- Reads tokens from a place in a line. A break that ends the text is none, and a
backslash in front of it stays. -/
def Leaf.tokensFrom (leaf : Leaf) :
    (fuel : Nat) → (before : Text) → Braces → Begun → (place : Nat) → Text → List Token
  | 0, _, _, begun, place, _ => begun.endAt place
  | _ + 1, before, _, begun, place, [] => begun.endAt (place - (before.takeWhile isInnerSpace).length)
  | fuel + 1, before, braces, begun, place, c :: s =>
    match if atLineEnd (c :: s) then afterLineEnd? (c :: s) else none with
    | some rest =>
      let (kind, width) := breakBehind before
      let length := (c :: s).length - rest.length
      if rest = [] then begun.endAt (if kind = .hardBreak true then place else place - width)
      else
        let line := leaf.behindMargin rest
        begun.endAt (place - width) ++ ⟨kind, place, length, c :: s⟩
          :: leaf.tokensFrom fuel [] braces none (place + length + (rest.length - line.length)) line
    | none =>
      match leaf.head before braces (c :: s) with
      | .plain n =>
        leaf.tokensFrom fuel ((c :: s).take n |>.reverse |> (· ++ before)) (braces.pass c)
          (some (begun.getD (place, c :: s))) (place + n) ((c :: s).drop n)
      | .escaped =>
        begun.endAt place ++
          if s.head? = some '\x60' then
            let n := runLength '\x60' s
            ⟨.ticks true, place + 1, n, s⟩
              :: leaf.tokensFrom fuel ('\x60' :: before) braces none (place + 1 + n) (s.drop n)
          else
            leaf.tokensFrom fuel (s.take 1 ++ c :: before) braces (some (place + 1, s)) (place + 2) (s.drop 1)
      | .token kind n =>
        begun.endAt place ++ ⟨kind, place, n, c :: s⟩
          :: leaf.tokensFrom fuel ((c :: s).take n |>.reverse |> (· ++ before)) braces none (place + n) ((c :: s).drop n)

/-! ## Titles -/

/-- Where the text of a title ends: in front of the closing hashes that stand apart, and of the
white space at its end. -/
def titleEnd (s : Text) : Nat :=
  let text := s.reverse.dropWhile fun c => c = '\n' || c = '\r' || c = ' '
  let closed := text.dropWhile (· = '#')
  let inner := closed.dropWhile (· = ' ')
  if closed = [] then 0 else if inner.length < closed.length then inner.length else text.length

/-- Lets the last token of a title end where its text does. A title of closing hashes only has no
tokens. -/
def trimTitle (s : Text) (tokens : List Token) : List Token :=
  match titleEnd s, tokens.reverse with
  | 0, _ => []
  | _, [] => []
  | n, last :: more => ({ last with length := n - last.start } :: more).reverse

/-- The tokens of the text of a paragraph or heading. -/
def Leaf.tokens (leaf : Leaf) (s : Text) : List Token :=
  let tokens := leaf.tokensFrom (s.length + 1) [] .outside none 0 s
  if leaf.isTitle then trimTitle s tokens else tokens

end Coursebook.Markup
