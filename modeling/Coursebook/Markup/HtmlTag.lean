/-
HTML inside markup: the starts of HTML blocks, and the tags, comments,
instructions and declarations that may stand in a line.

A tag may run over several lines. `skip` then passes what stands at the
head of the next line for the containers around the text; without it a tag
has to end on its line.
-/
import Coursebook.Markup.Line

namespace Coursebook.Markup.HtmlTag

/-- How to pass what containers put in front of a line. -/
abbrev LineSkip := Option (Text → Text)

/-! ## Tags -/

/-- Reads white space and line ends: what was read, without what containers put in front of lines,
and what follows. -/
def spaces? (skip : LineSkip) : (fuel : Nat) → Text → Option (Text × Text)
  | 0, _ => none
  | _ + 1, [] => some ([], [])
  | fuel + 1, c :: s =>
    if !isSpace c then some ([], c :: s)
    else match afterLineEnd? (c :: s) with
      | some r => do
        let skip' ← skip
        let (read, rest) ← spaces? skip fuel (skip' r)
        return ((c :: s).take ((c :: s).length - r.length) ++ read, rest)
      | none => (spaces? skip fuel s).map fun (read, rest) => (c :: read, rest)

def quoted? (skip : LineSkip) (quote : Char) : (fuel : Nat) → Text → Option (Text × Text)
  | 0, _ => none
  | _ + 1, [] => none
  | fuel + 1, c :: s =>
    if c = quote then some ([c], s)
    else match afterLineEnd? (c :: s) with
      | some r => do
        let skip' ← skip
        let (read, rest) ← quoted? skip quote fuel (skip' r)
        return ((c :: s).take ((c :: s).length - r.length) ++ read, rest)
      | none => (quoted? skip quote fuel s).map fun (read, rest) => (c :: read, rest)

def endsBareValue (c : Char) : Bool := isSpace c || c ∈ ['"', '\'', '=', '<', '>', '`']

def value? (skip : LineSkip) (s : Text) : Option (Text × Text) :=
  match s with
  | [] => none
  | c :: r =>
    if c = '"' ∨ c = '\'' then (quoted? skip c (r.length + 1) r).map fun (read, rest) => (c :: read, rest)
    else if c ∈ [' ', '=', '>', '<', '`', '\n', '\r'] then none
    else some (s.takeWhile (!endsBareValue ·), s.dropWhile (!endsBareValue ·))

def inAttributeName (c : Char) : Bool := Text.isAsciiAlphanumeric c || c ∈ ['_', '.', ':', '-']

def attributeName? : Text → Option (Text × Text)
  | [] => none
  | c :: s =>
    if Text.isAsciiLetter c ∨ c = '_' ∨ c = ':' then some (c :: s.takeWhile inAttributeName, s.dropWhile inAttributeName)
    else none

/-- Reads an attribute; white space that no value follows is left for the next one. -/
def attribute? (skip : LineSkip) (s : Text) : Option (Text × Text) := do
  let (name, r) ← attributeName? s
  let (gap, r') ← spaces? skip (r.length + 1) r
  match r' with
  | '=' :: r' =>
    let (gap', r') ← spaces? skip (r'.length + 1) r'
    let (value, r') ← value? skip r'
    return (name ++ gap ++ '=' :: gap' ++ value, r')
  | _ => return (name, r)

/-- Reads the attributes of an opening tag and the white space behind them. -/
def attributes? (skip : LineSkip) : (fuel : Nat) → Text → Option (Text × Text)
  | 0, _ => none
  | fuel + 1, s => do
    let (gap, r) ← spaces? skip (s.length + 1) s
    match r with
    | [] => none
    | c :: _ =>
      if c = '/' ∨ c = '>' then return (gap, r)
      if gap = [] then none
      let (first, r) ← attribute? skip r
      let (more, r) ← attributes? skip fuel r
      return (gap ++ first ++ more, r)

def tagName? (s : Text) : Option (Text × Text) :=
  match s with
  | c :: r =>
    let inName (c : Char) := Text.isAsciiAlphanumeric c || c = '-'
    if Text.isAsciiLetter c then some (c :: r.takeWhile inName, r.dropWhile inName) else none
  | [] => none

/-- Reads a tag behind its `<`. -/
def tag? (skip : LineSkip) (s : Text) : Option (Text × Text) := do
  match s with
  | '/' :: s =>
    let (name, r) ← tagName? s
    match r.dropWhile isInnerSpace with
    | '>' :: rest => return ('/' :: name ++ r.takeWhile isInnerSpace ++ ['>'], rest)
    | _ => none
  | s =>
    let (name, r) ← tagName? s
    let (attributes, r) ← attributes? skip (r.length + 1) r
    match r with
    | '/' :: '>' :: rest => return (name ++ attributes ++ ['/', '>'], rest)
    | '>' :: rest => return (name ++ attributes ++ ['>'], rest)
    | _ => none

/-! ## Comments and the like -/

/-- Reads up to the end of the first occurrence of `close`. -/
def through? (close s : Text) : Option (Text × Text) :=
  (Text.cut? close s).map fun (before, rest) => (before ++ close, rest)

/-- Reads a comment behind `<!--`; it may be no more than `<!-->` or `<!--->`. -/
def comment? (s : Text) : Option (Text × Text) :=
  match s with
  | '>' :: r => some (['>'], r)
  | '-' :: '>' :: r => some (['-', '>'], r)
  | s => through? ['-', '-', '>'] s

/-- Reads inline HTML behind its `<`: what was read, and what follows it. -/
def inline? (skip : Text → Text) (s : Text) : Option (Text × Text) :=
  match s with
  | '!' :: '-' :: '-' :: r => (comment? r).map fun (read, rest) => ("!--".toList ++ read, rest)
  | '!' :: r =>
    match Text.after? "[CDATA[".toList r with
    | some r => (through? [']', ']', '>'] r).map fun (read, rest) => ("![CDATA[".toList ++ read, rest)
    | none =>
      match r with
      | c :: _ => if Text.isAsciiLetter c then (through? ['>'] r).map fun (read, rest) => ('!' :: read, rest) else none
      | [] => none
  | '?' :: r => (through? ['?', '>'] r).map fun (read, rest) => ('?' :: read, rest)
  | s => tag? (some skip) s

/-! ## Blocks -/

/-- Whether a text starts with a name, in any case of its letters. -/
def startsWithName (name s : Text) : Bool := s.take name.length |>.map Text.asciiLower |> (· = name)

/-- Tags whose content is taken as it is, up to the closing tag. -/
def verbatimTags : List Text := ["pre".toList, "style".toList, "script".toList, "textarea".toList]

/-- What ends the block of a verbatim tag that starts behind a `<`. -/
def verbatimEnd? (s : Text) : Option Text :=
  verbatimTags.findSome? fun name =>
    if startsWithName name s then
      match s.drop name.length with
      | [] => some ("</".toList ++ name ++ ['>'])
      | c :: _ => if isSpace c ∨ c = '>' then some ("</".toList ++ name ++ ['>']) else none
    else none

/-- What ends an HTML block that starts behind a `<` and may hold blank lines. -/
def blockEnd? (s : Text) : Option Text :=
  match verbatimEnd? s with
  | some e => some e
  | none =>
    match s with
    | '!' :: '-' :: '-' :: _ => some ['-', '-', '>']
    | '?' :: _ => some ['?', '>']
    | '!' :: c :: _ =>
      if Text.startsWith "![CDATA[".toList s then some [']', ']', '>']
      else if Text.isAsciiLetter c then some ['>']
      else none
    | _ => none

def blockTags : List String :=
  ["address", "article", "aside", "base", "basefont", "blockquote", "body", "caption", "center", "col", "colgroup",
    "dd", "details", "dialog", "dir", "div", "dl", "dt", "fieldset", "figcaption", "figure", "footer", "form",
    "frame", "frameset", "h1", "h2", "h3", "h4", "h5", "h6", "head", "header", "hr", "html", "iframe", "legend",
    "li", "link", "main", "menu", "menuitem", "nav", "noframes", "ol", "optgroup", "option", "p", "param", "search",
    "section", "summary", "table", "tbody", "td", "tfoot", "th", "thead", "title", "tr", "track", "ul"]

/-- Whether a block tag starts behind a `<`. -/
def startsBlock (s : Text) : Bool :=
  let s := match s with
    | '/' :: r => r
    | r => r
  let name := s.takeWhile Text.isAsciiAlphanumeric
  (String.ofList (name.map Text.asciiLower) ∈ blockTags) &&
    match s.drop name.length with
    | [] => true
    | '/' :: '>' :: _ => true
    | c :: _ => c ∈ [' ', '\t', '\r', '\n', '>']

/-- Whether a line holds one tag and nothing else, behind its `<`. -/
def isLoneTag (s : Text) : Bool :=
  match tag? none s with
  | some (_, r) => (afterBlankLine? r).isSome
  | none => false

end Coursebook.Markup.HtmlTag
