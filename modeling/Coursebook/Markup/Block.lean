/-
The block structure of a markup text: quotes, lists, headings, code,
HTML, breaks and paragraphs, and the link definitions between them.

The text is read line by line. Quotes and list items are containers: at the
head of each line the open ones are matched, those that do not match are
closed, and new ones are opened. What is left of the line starts a block of
its own or goes on with a paragraph. A paragraph also goes on over a line
that matches fewer containers, as long as nothing else starts there.
-/
import Coursebook.Markup.HtmlTag
import Coursebook.Markup.Link
import Coursebook.Command.ListBlock

namespace Coursebook.Markup

open Coursebook.Command (ListKind)

/-- What stands around a block: a quote, or a list item whose content is indented. -/
inductive Container where
  | quote
  | item (indent : Nat)
deriving Repr, DecidableEq

/-- The characters of a line of HTML, or spaces in front of one. -/
inductive HtmlPiece where
  | line (html : Text)
  | indent (spaces : Text)
deriving Repr, DecidableEq

/-- A block. The text of a paragraph or heading is kept as it stands in the source, with the
containers that its lines have to pass. -/
inductive MarkupBlock where
  | paragraph (containers : List Container) (source : Text)
  | heading (level : Nat) (containers : List Container) (source : Text)
  | title (level : Nat) (source : Text)
  | quote (blocks : List MarkupBlock)
  | list (tight : Bool) (kind : ListKind) (items : List (List MarkupBlock))
  | code (info : Text) (content : Text)
  | html (pieces : List HtmlPiece)
  | rule
deriving Inhabited

/-! ## Containers -/

/-- Passes what one container puts in front of a line. A line that is at its end passes an item. -/
def Container.pass? (container : Container) (c : Cursor) : Option Cursor :=
  match container with
  | .quote => (c.columnsUpTo 3).2.skipQuoteMarker?
  | .item indent =>
    match c.skipColumns indent with
    | (0, c) => some c
    | (_, c) => if atLineEnd c.rest then some c else none

/-- Passes as many containers as match, the outermost first: their number, and the place behind. -/
def passContainers : List Container → Cursor → Nat × Cursor
  | [], c => (0, c)
  | container :: more, c =>
    match container.pass? c with
    | some c => let (n, c) := passContainers more c; (n + 1, c)
    | none => (0, c)

/-- What is left of a text behind the containers that match at its head. -/
def behindContainers (containers : List Container) (s : Text) : Text := (passContainers containers (.ofLine s)).2.rest

/-! ## The state of reading -/

/-- An open list with its items, or an open container with its blocks, the latest first. -/
inductive OpenBlock where
  | quote (blocks : List MarkupBlock)
  | list (tight : Bool) (marker : Char) (items : List (List MarkupBlock))
  | item (indent : Nat) (blocks : List MarkupBlock)

namespace OpenBlock

/-- What an open block asks of every line; a list asks for nothing. -/
def container? : OpenBlock → Option Container
  | quote _ => some .quote
  | list .. => none
  | item indent _ => some (.item indent)

def isList : OpenBlock → Bool
  | list .. => true
  | _ => false

def loosen : OpenBlock → OpenBlock
  | list _ marker items => list false marker items
  | b => b

end OpenBlock

/-- Passes as many open blocks as match, the outermost first: their number, and the place behind. -/
def passOpened : List OpenBlock → Cursor → Nat × Cursor
  | [], c => (0, c)
  | b :: more, c =>
    match b.container?.elim (some c) fun container => container.pass? c with
    | some c => let (n, c) := passOpened more c; (n + 1, c)
    | none => (0, c)

/-- What has been read: the open blocks, innermost first; the blocks of the document, latest first;
whether the last line was blank; whether the innermost item has only its marker so far; and the link
definitions, latest first. -/
structure Reading where
  opened : List OpenBlock
  blocks : List MarkupBlock
  lineBlank : Bool
  itemEmpty : Bool
  definitions : List (Text × Text)

namespace Reading

def start : Reading := ⟨[], [], false, false, []⟩

/-- The containers around the place of reading, the outermost first. -/
def containers (r : Reading) : List Container := (r.opened.filterMap OpenBlock.container?).reverse

/-- Passes the open blocks at the head of a line: whether all of them match, their number, and the
place behind them. -/
def pass (r : Reading) (s : Text) : Bool × Nat × Cursor :=
  let (n, c) := passOpened r.opened.reverse (.ofLine s)
  (n = r.opened.length, n, c)

def add (r : Reading) (b : MarkupBlock) : Reading :=
  match r.opened with
  | .quote bs :: more => { r with opened := .quote (b :: bs) :: more }
  | .item indent bs :: more => { r with opened := .item indent (b :: bs) :: more }
  | _ => { r with blocks := b :: r.blocks }

def addItem (r : Reading) (item : List MarkupBlock) : Reading :=
  match r.opened with
  | .list tight marker items :: more => { r with opened := .list tight marker (item :: items) :: more }
  | _ => r

def kindOf (marker : Char) : ListKind := if marker = '.' ∨ marker = ')' then .ordered else .unordered

def close (r : Reading) : Reading :=
  match r.opened with
  | [] => r
  | .quote bs :: more => { r with opened := more }.add (.quote bs.reverse)
  | .item _ bs :: more => { r with opened := more }.addItem bs.reverse
  | .list tight marker items :: more =>
    { r with opened := more, itemEmpty := r.itemEmpty && !tight }.add (.list tight (kindOf marker) items.reverse)

/-- Closes the innermost `n` open blocks. -/
def closeMany : Nat → Reading → Reading
  | 0, r => r
  | n + 1, r => closeMany n r.close

/-- Ends an item that has only a marker and a blank line behind it. -/
def endEmptyItem (r : Reading) : Reading :=
  let r' := match r.itemEmpty && r.lineBlank, r.opened with
    | true, .item .. :: _ => r.close
    | _, _ => r
  { r' with itemEmpty := false }

/-- Ends the innermost list in front of a block that is no item of it. A blank line in front of a
block inside an item makes the list loose. -/
def endList (r : Reading) : Reading :=
  let r := r.endEmptyItem
  let r := match r.opened with
    | .list .. :: _ => r.close
    | _ => r
  if r.lineBlank then
    let opened := match r.opened with
      | inner :: outer :: more => inner :: outer.loosen :: more
      | opened => opened
    { r with opened, lineBlank := false }
  else r

/-- Goes on with the innermost list if it has this marker, or opens a new list. A blank line in
front of an item makes the list loose. -/
def openList (r : Reading) (marker : Char) : Reading :=
  let r := r.endEmptyItem
  let new (r : Reading) : Reading :=
    let r := r.endList
    { r with opened := .list true marker [] :: r.opened, lineBlank := false }
  match r.opened with
  | .list tight marker' items :: more =>
    if marker' = marker then
      { r with opened := .list (tight && !r.lineBlank) marker items :: more, lineBlank := false }
    else new r
  | _ => new r

/-! ## Opening containers -/

/-- Opens the containers that start at a cursor. A marker with nothing behind it on its line takes
the line: then the text behind it is given. -/
def openContainers : (fuel : Nat) → Reading → Cursor → Reading × Cursor × Option Text
  | 0, r, c => (r, c, none)
  | fuel + 1, r, c =>
    let (indent, inner) := c.columnsUpTo 4
    if 4 ≤ indent then (r, c, none)
    else match itemStart? indent inner with
      | some (m, width, behind) =>
        let r := r.openList m.char
        let r := { r with opened := .item width [] :: r.opened }
        match afterBlankLine? behind.rest with
        | some s => ({ r with itemEmpty := true }, behind, some s)
        | none => openContainers fuel r behind
      | none =>
        match inner.skipQuoteMarker? with
        | some behind =>
          let r := r.endList
          openContainers fuel { r with opened := .quote [] :: r.opened } behind
        | none => (r, c, none)

/-- Takes a blank line. In a quote it says nothing; behind the marker of an empty item it ends the
indentation of the item, so that nothing more can belong to it. -/
def blankLine (r : Reading) : Reading :=
  match r.opened with
  | .quote _ :: _ => r
  | .item indent bs :: more =>
    if r.itemEmpty then { r with opened := .item 0 bs :: more, lineBlank := true }
    else { r with opened := .item indent bs :: more, lineBlank := true }
  | _ => { r with lineBlank := true }

/-! ## Paragraphs -/

/-- Whether the text at the head of a line ends a paragraph in front of it. Inside the paragraph's
own containers an item does so only if it has content, and a number only if it is one. -/
def interrupts (s : Text) (passed : Bool) : Bool :=
  atLineEnd s || (afterRule? s).isSome || (headingHashes? s).isSome || (fence? s).isSome || s.head? = some '>'
    || (match listMarker? s with
      | some m => startsItem m s && (!passed || ((m.isBullet || m.number = 1) && !isEmptyItem m s))
      | none => false)
    || (match s with
      | '<' :: t => (HtmlTag.blockEnd? t).isSome || HtmlTag.startsBlock t
      | _ => false)

/-- What a paragraph's next line is: its end, the line under a heading, or more text. -/
inductive NextLine where
  | ends
  | underline (level : Nat) (rest : Text)
  | continues

def nextLine (r : Reading) (s : Text) : NextLine :=
  let (passed, _, c) := r.pass s
  let (missing, inner) := c.skipColumns 4
  if missing = 0 then if atLineEnd inner.skipAllSpaces then .ends else .continues
  else match if passed then underline? inner.rest else none with
    | some (level, rest) => .underline level rest
    | none => if interrupts inner.rest passed ∨ atLineEnd inner.skipAllSpaces then .ends else .continues

def cutTextLine : Text → Text × Text
  | [] => ([], [])
  | c :: s =>
    match afterLineEnd? (c :: s) with
    | some r => ((c :: s).take ((c :: s).length - r.length), r)
    | none => let (line, r) := cutTextLine s; (c :: line, r)

/-- Reads the lines of a paragraph: its source, the level if it turns out to be a heading, and what
follows. -/
def paragraphLines (r : Reading) : (fuel : Nat) → Text → Text × Option Nat × Text
  | 0, s => ([], none, s)
  | fuel + 1, s =>
    let (line, rest) := cutTextLine s
    match r.nextLine rest with
    | .ends => (line, none, rest)
    | .underline level rest => (line, some level, rest)
    | .continues =>
      let (more, level, rest) := paragraphLines r fuel rest
      (line ++ more, level, rest)

/-- Reads a paragraph, or a heading whose line is under its text. -/
def paragraph (r : Reading) (s : Text) : Reading × Text :=
  match r.paragraphLines (s.length + 1) s with
  | (source, some level, rest) => (r.add (.heading level r.containers source), rest)
  | (source, none, rest) => (r.add (.paragraph r.containers source), rest)

/-! ## Link definitions -/

/-- Passes to the next line inside a link definition, unless a paragraph would end there. -/
def continueLine? (r : Reading) (s : Text) : Option Text :=
  let (passed, _, c) := r.pass s
  let (missing, inner) := c.skipColumns 4
  if missing ≠ 0 ∧ (interrupts inner.rest passed ∨ (passed ∧ (underline? inner.rest).isSome)) then none
  else some inner.rest

/-- Passes white space inside a link definition: the number of line ends in it, at most one, and
what follows. -/
def definitionSpace? (r : Reading) : (fuel lines : Nat) → Text → Option (Nat × Text)
  | 0, _, _ => none
  | fuel + 1, lines, s =>
    let s := s.dropWhile isInnerSpace
    match s, afterLineEnd? s with
    | [], _ => if lines = 0 then some (1, []) else none
    | s, none => some (lines, s)
    | _, some rest => do
      if 1 ≤ lines then none
      definitionSpace? r fuel (lines + 1) (← r.continueLine? rest)

/-- A title in a definition goes on over a line end, unless the next line is blank. -/
def titleLine? (s : Text) : Option Text := do
  let r ← afterLineEnd? s
  let r := r.dropWhile isInnerSpace
  if atLineEnd r then none else some r

/-- Reads a link definition: label, destination, and what follows them and a title. A title that
does not end its line is no part of the definition; then the definition has to end its own line. -/
def definition? (r : Reading) (s : Text) : Option (Text × Text × Text) := do
  match s with
  | '[' :: s =>
    let (label, s) ← Link.label? r.continueLine? s
    match s with
    | ':' :: s =>
      let (_, s) ← r.definitionSpace? (s.length + 1) 0 s
      let (destination, rest) ← Link.destination? s
      if rest.length = s.length then none
      let whole := (label, Link.unescape destination, rest)
      match r.definitionSpace? (rest.length + 1) 0 rest with
      | none => return whole
      | some (lines, behind) =>
        if behind.length = rest.length ∧ lines = 0 then none
        match (Link.afterTitle? titleLine? behind).bind fun t => (afterBlankLine? t).map fun _ => t with
        | some behind => return (label, Link.unescape destination, behind)
        | none => if 0 < lines then return whole else none
    | _ => none
  | _ => none

/-! ## Code -/

/-- A line whose carriage return in front of the line feed is left out. -/
def plainLine (line : Text) : Text :=
  match line.reverse with
  | '\n' :: '\r' :: r => (('\n' : Char) :: r).reverse
  | _ => line

def pendingSpaces (c : Cursor) : Text := List.replicate c.pending ' '

/-- Reads the content of a fenced code block whose fence is indented by `indent`, up to its closing
fence or the end of its containers. -/
def fencedLines (r : Reading) (char : Char) (length indent : Nat) : (fuel : Nat) → Text → Text × Text
  | 0, s => ([], s)
  | fuel + 1, s =>
    let (passed, _, c) := r.pass s
    if !passed then ([], s)
    else
      let (_, c) := c.columnsUpTo indent
      let (missing, inner) := c.skipColumns (4 - indent)
      match if missing = 0 then none else afterClosingFence? char length inner.rest with
      | some rest => ([], (afterBlankLine? rest).getD rest)
      | none =>
        let (line, rest) := cutLine c.rest
        let (more, rest) := fencedLines r char length indent fuel rest
        (pendingSpaces c ++ plainLine line ++ more, rest)

/-- The info string behind a fence: what is left of its line, without white space at its ends. -/
def infoString (s : Text) : Text :=
  let line := (s.dropWhile isInnerSpace)
  Link.unescape ((line.reverse.dropWhile isSpace).reverse)

def fencedCode (r : Reading) (char : Char) (length indent : Nat) (s : Text) : Reading × Text :=
  let (line, rest) := cutLine s
  let (content, rest) := r.fencedLines char length indent (rest.length + 1) rest
  (r.add (.code (infoString line) content), rest)

/-- Reads the lines of an indented code block from behind the indentation of the first: the lines
with whether each is blank, and what follows. -/
def indentedLines (r : Reading) (blank : Bool) : (fuel : Nat) → Cursor → List (Text × Bool) × Text
  | 0, c => ([], c.rest)
  | fuel + 1, c =>
    let (line, rest) := cutLine c.rest
    let here := (pendingSpaces c ++ plainLine line, blank)
    let (passed, _, next) := r.pass rest
    let (missing, inner) := next.skipColumns 4
    if !passed ∨ (missing ≠ 0 ∧ !atLineEnd inner.rest) ∨ inner.rest = [] then ([here], rest)
    else
      let (more, rest) := indentedLines r (afterBlankLine? inner.rest).isSome fuel inner
      (here :: more, rest)

/-- Reads an indented code block; blank lines at its end are no part of it. -/
def indentedCode (r : Reading) (c : Cursor) : Reading × Text :=
  let (lines, rest) := r.indentedLines false (c.rest.length + 1) c
  let content := (lines.reverse.dropWhile (·.2)).reverse
  let r := r.add (.code [] (content.flatMap (·.1)))
  ({ r with lineBlank := (lines.getLast?.map (·.2)).getD false }, rest)

/-! ## HTML -/

/-- A line of HTML behind some spaces. The line feed behind a carriage return is a piece of its own. -/
def htmlPieces (spaces : Nat) (line : Text) : List HtmlPiece :=
  (if spaces = 0 then [] else [.indent (List.replicate (min spaces 3) ' ')]) ++
    match line.reverse with
    | '\n' :: '\r' :: r => [.line r.reverse, .line ['\n']]
    | _ => [.line line]

/-- Reads the lines of an HTML block. It ends behind a line that holds `close`, if there is one to
wait for; otherwise in front of a blank line. -/
def htmlLines (r : Reading) (close : Option Text) : (fuel spaces : Nat) → Text → List HtmlPiece × Text
  | 0, _, s => ([], s)
  | fuel + 1, spaces, s =>
    let (line, rest) := cutLine s
    let here := htmlPieces spaces line
    let (passed, _, c) := r.pass rest
    let ends := match close with
      | some close => Text.contains close line
      | none => atLineEnd c.rest || (afterBlankLine? c.rest).isSome
    if !passed ∨ ends = true ∨ c.rest = [] then (here, rest)
    else
      let (more, rest) := htmlLines r close fuel c.pending c.rest
      (here ++ more, rest)

def html (r : Reading) (close : Option Text) (spaces : Nat) (s : Text) : Reading × Text :=
  let (pieces, rest) := r.htmlLines close (s.length + 1) spaces s
  (r.add (.html pieces), rest)

/-! ## All blocks -/

/-- Reads a heading behind its hashes: its line, without white space in front. A line end that also
ends the text is no part of it. -/
def title (r : Reading) (level : Nat) (s : Text) : Reading × Text :=
  match afterLineEnd? s with
  | some rest => (r.add (.title level []), rest)
  | none =>
    let (line, rest) := cutTextLine (s.dropWhile isInnerSpace)
    (r.add (.title level (if rest = [] then line.filter (!atLineEnd [·]) else line)), rest)

/-- Adds a link definition, unless there is one for its label. -/
def define (r : Reading) (label destination : Text) : Reading :=
  let key := Link.labelKey label
  if r.definitions.any (·.1 = key) then r else { r with definitions := (key, destination) :: r.definitions }

/-- What of the line behind a link definition belongs to its paragraph, if it does. Definitions are the
first lines of a paragraph, so the line may match fewer containers. -/
def behindDefinition? (r : Reading) (s : Text) : Option Text :=
  let (passed, _, c) := r.pass s
  let (missing, inner) := c.skipColumns 4
  let line := inner.skipAllSpaces
  if atLineEnd line ∨ (missing ≠ 0 ∧ interrupts inner.rest passed) then none else some line

/-- Reads a paragraph with the link definitions at its head. -/
def definitionsAndParagraph : (fuel : Nat) → Reading → Text → Reading × Text
  | 0, r, s => (r, s)
  | fuel + 1, r, s =>
    match r.definition? s with
    | none => r.paragraph s
    | some (label, destination, rest) =>
      let r := r.define label destination
      match afterBlankLine? rest with
      | none => (r, rest)
      | some rest =>
        match r.behindDefinition? rest with
        | none => (r, rest)
        | some line => definitionsAndParagraph fuel r line

/-- The kind of HTML block that starts behind a `<`: what it waits for, if it is one. -/
def htmlStart? (s : Text) : Option (Option Text) :=
  match HtmlTag.blockEnd? s with
  | some close => some (some close)
  | none => if HtmlTag.startsBlock s ∨ HtmlTag.isLoneTag s then some none else none

/-- Reads the block at a cursor, which is not at a blank line. -/
def leaf (r : Reading) (c : Cursor) : Reading × Text :=
  let r := r.endList
  let (indent, inner) := c.columnsUpTo 4
  let s := inner.rest
  if indent = 4 then r.indentedCode inner
  else match (match s with
    | '<' :: t => htmlStart? t
    | _ => none) with
  | some close => r.html close (max c.pending indent) s
  | none =>
    match afterRule? s with
    | some rest => (r.add .rule, rest)
    | none =>
      match headingHashes? s with
      | some (level, rest) => r.title level rest
      | none =>
        match fence? s with
        | some (char, length, rest) => r.fencedCode char length indent rest
        | none => definitionsAndParagraph (s.length + 1) r s

/-- Reads one block, or one blank line, at the head of a line. -/
def step (r : Reading) (s : Text) : Reading × Text :=
  let (_, n, c) := r.pass s
  let r := closeMany (r.opened.length - n) r
  match r.openContainers (s.length + 1) c with
  | (r, _, some rest) => (r, rest)
  | (r, c, none) =>
    match afterBlankLine? c.rest with
    | some rest => (r.blankLine, rest)
    | none => r.leaf c

def run : (fuel : Nat) → Reading → Text → Reading
  | 0, r, _ => r
  | _ + 1, r, [] => r
  | fuel + 1, r, s => let (r, rest) := r.step s; run fuel r rest

/-- Reads a whole text and closes what is open at its end. -/
def ofText (s : Text) : Reading :=
  let r := run (s.length + 1) start s
  closeMany r.opened.length r

end Reading

end Coursebook.Markup
