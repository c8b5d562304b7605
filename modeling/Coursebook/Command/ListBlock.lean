/-
List environments, `itemize` and `enumerate`, and their layout as markdown
lists. The last environment that is closed is laid out first, so an inner
list is laid out before the list around it; that list then indents its
lines. An environment without its closing tag is left as it is.
-/
import Coursebook.Math.Environment
import Coursebook.Text.Blank

namespace Coursebook.Command

/-- Whether the items of a list are numbered. -/
inductive ListKind where
  | ordered
  | unordered
deriving Repr, DecidableEq

namespace ListBlock

def kinds : List ListKind := [.unordered, .ordered]

def environmentName : ListKind → Text
  | .unordered => "itemize".toList
  | .ordered => "enumerate".toList

def itemWord : Text := "\\item".toList

def marker (kind : ListKind) (number : Nat) : Text :=
  match kind with
  | .ordered => Text.ofNat number ++ ['.']
  | .unordered => ['-']

/-- The lines of an entry that are not blank, without trailing white space. -/
def entryLines (entry : Text) : List Text :=
  ((Text.splitOn ['\n'] entry).map Text.trimEnd).filter (· ≠ [])

/-- Lays out one item: its marker in front of the first line, every further line indented by the
width of the marker and a space. -/
def layoutItem (marker : Text) : List Text → List Text
  | [] => []
  | first :: rest =>
    (marker ++ ' ' :: Text.trimStart first) :: rest.map (List.replicate (marker.length + 1) ' ' ++ ·)

/-- Lays out entries as items numbered from `number` on; a blank entry is no item. The
numbers are natural numbers, so they go on where a count of 32 bits with a sign ends, at 2 ^ 31 items. -/
def layoutEntries (kind : ListKind) (number : Nat) : List Text → List Text
  | [] => []
  | entry :: rest =>
    if Text.isBlankText entry then layoutEntries kind number rest
    else layoutItem (marker kind number) (entryLines (Text.trim entry)) ++ layoutEntries kind (number + 1) rest

def blankLine : Text := ['\n', '\n']

/-- What stands in front of the first item: nothing for options in brackets, a block of its own
for other text. -/
def layoutPreamble (preamble : Text) : Text :=
  match Text.trim preamble with
  | [] => []
  | '[' :: _ => []
  | p => p ++ blankLine

/-- Lays out the body of a list environment as a block of its own. -/
def render (kind : ListKind) (body : Text) : Text :=
  match Text.splitOn itemWord body with
  | [] => blankLine ++ blankLine
  | preamble :: entries =>
    blankLine ++ layoutPreamble preamble ++ Text.join ['\n'] (layoutEntries kind 1 entries) ++ blankLine

/-- Lays out the list environment at the head of a text. -/
def renderHead? (s : Text) : Option Text :=
  kinds.findSome? fun kind => do
    let s ← Text.after? (Environment.openTag (environmentName kind)) s
    let (body, r) ← Text.cut? (Environment.closeTag (environmentName kind)) s
    return render kind body ++ r

/-- Lays out the last list environment that is closed. -/
def renderLast? : Text → Option Text
  | [] => none
  | c :: s =>
    match renderLast? s with
    | some t => some (c :: t)
    | none => renderHead? (c :: s)

/-- Whether a list environment opens at the head of a text. -/
def opensHere (s : Text) : Bool := kinds.any fun kind => Text.startsWith (Environment.openTag (environmentName kind)) s

def openCount : Text → Nat
  | [] => 0
  | c :: s => (if opensHere (c :: s) then 1 else 0) + openCount s

/-- Lays out closed list environments, the last first, at most `n` of them. -/
def renderUpTo : Nat → Text → Text
  | 0, s => s
  | n + 1, s =>
    match renderLast? s with
    | some t => renderUpTo n t
    | none => s

/-- Lays out every list environment that is closed. Each layout takes an opening tag away and none
appears, so their number bounds the layouts. -/
def renderAll (s : Text) : Text := renderUpTo (openCount s) s

end ListBlock

end Coursebook.Command
