/-
The events of a markup text, in reading order. Every `start` is closed by a
`stop`; between them stand the events of what the tag encloses.
-/
import Coursebook.Node

namespace Coursebook.Markup

/-- What encloses other events. A tag that is none of the others adds nothing of its own to what it
encloses; `htmlBlock` stands for it too. -/
inductive Tag where
  | paragraph
  | heading (level : Nat)
  | blockQuote
  | list (kind : Command.ListKind)
  | item
  | emphasis (style : EmphasisStyle)
  | link (url : Text)
  | image (url : Text)
  | codeBlock (info : Text)
  | htmlBlock
deriving Repr, DecidableEq

/-- A step in the reading of a markup text. Steps that leave nothing in a tree, such as a footnote
reference or the mark of a task, are left out. -/
inductive Event where
  | start (tag : Tag)
  | stop
  | text (t : Text)
  | code (source : Text)
  | math (kind : MathKind) (source : Text)
  | html (html : Text)
  | inlineHtml (html : Text)
  | softBreak
  | hardBreak
  | rule
deriving Repr, DecidableEq

end Coursebook.Markup
