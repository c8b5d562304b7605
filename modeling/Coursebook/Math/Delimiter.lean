/-
Canonical delimiters. Every accepted way to mark a formula is turned
into `$b$` or `$$b$$`: `\( \)`, `\[ \]`, and the environments of displayed
equations, of aligned and gathered rows, and of grids. Canonical spans are
copied, inline ones without the padding inside their dollars.

An escaped backslash is one token, so `\\[2mm]` stays a line break, and an
opener whose closer is missing stays as it is.
-/
import Coursebook.Math.Environment
import Coursebook.Segment
import Coursebook.Text.Blank

namespace Coursebook.Math

/-- The body of an inline span without padding. A body that ends in a backslash keeps the space
behind it, so that the closing dollar is not escaped. -/
def inlineBody (b : Text) : Text :=
  let b := Text.trimStart b
  let t := Text.trimEnd b
  if t.getLast? = some '\\' then b else t

/-- An inline span with the given body; `fallback` if nothing is left of it. -/
def inlineSpan (b fallback : Text) : Text :=
  match inlineBody b with
  | [] => fallback
  | b => (Segment.math .inline b).raw

def displaySpan (b : Text) : Text := (Segment.math .display b).raw

def displayNames : List Text := ["equation".toList, "equation*".toList, "displaymath".toList]

/-- Environments that become a display span around an inner environment, with its name. -/
def wrappedNames : List (Text × Text) :=
  [("align".toList, "aligned".toList), ("align*".toList, "aligned".toList), ("eqnarray".toList, "aligned".toList),
    ("eqnarray*".toList, "aligned".toList), ("gather".toList, "gathered".toList), ("gather*".toList, "gathered".toList)]

/-- The environment of text grids, which the math engine does not know. -/
def gridName : Text := "tabular".toList

def arrayName : Text := "array".toList

/-- Renames text grids to math grids; the column specification stays. -/
def renameGrid (b : Text) : Text :=
  Text.replace (Environment.closeTag gridName) (Environment.closeTag arrayName)
    (Text.replace (Environment.openTag gridName) (Environment.openTag arrayName) b)

/-- The canonical span for an environment, if it is one of those that are turned into one. -/
def environmentSpan? (name body : Text) : Option Text :=
  if displayNames.any (· = name) then some (displaySpan (Text.trim body))
  else match wrappedNames.lookup name with
    | some inner =>
      some (displaySpan (Environment.openTag inner ++ Text.trim body ++ Environment.closeTag inner))
    | none =>
      if name = gridName then
        some (displaySpan (Environment.openTag arrayName ++ renameGrid (Text.trimEnd body) ++ Environment.closeTag arrayName))
      else none

/-- Reads a formula in any accepted notation at the head of a text: its canonical form, and what
follows it. -/
def formula? : Text → Option (Text × Text)
  | '$' :: s =>
    match Segment.mathSpan? ('$' :: s) with
    | some (.inline, b, r) => some (inlineSpan b (Segment.math .inline b).raw, r)
    | some (.display, b, r) => some (displaySpan b, r)
    | none => none
  | '\\' :: '(' :: s => (Segment.cutUnescaped? ['\\', ')'] s).map fun (b, r) => (inlineSpan b [], r)
  | '\\' :: '[' :: s => (Segment.cutUnescaped? ['\\', ']'] s).map fun (b, r) => (displaySpan (Text.trim b), r)
  | '\\' :: s => do
    let (name, body, r) ← Environment.read? ('\\' :: s)
    let span ← environmentSpan? name body
    return (span, r)
  | _ => none

/-- The two-character tokens that open nothing: an escaped backslash and a literal dollar. -/
def literalToken? : Text → Option (Text × Text)
  | '\\' :: '\\' :: s => some (['\\', '\\'], s)
  | '\\' :: '$' :: s => some (['\\', '$'], s)
  | _ => none

/-- Brings every formula of a text into its canonical form. -/
def canonicalize : Text → Text :=
  Text.replaceMatches fun s =>
    match literalToken? s with
    | some token => some token
    | none => formula? s

end Coursebook.Math
