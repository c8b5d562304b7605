/-
From events to the document tree. A stack holds what is open, innermost
first: every start opens a frame and every stop closes one.

Underline is the exception. It is written as inline HTML, `<u>` and `</u>`,
outside the discipline of starts and stops; so a stop first closes every
underline that was left open inside the frame it ends, and a `</u>` whose
`<u>` is no longer open is dropped.

Display math is a block on the page: a paragraph is split around it, and
what is blank between the pieces is dropped.
-/
import Coursebook.Markup.Event
import Coursebook.Text.Blank

namespace Coursebook.Markup

/-- A frame under construction: its tag, the nodes in it and, for a list, the items in it, the
latest first. -/
structure Frame where
  tag : Tag
  nodes : List Node
  items : List (List Node)

namespace Frame

def ofTag (tag : Tag) : Frame := ⟨tag, [], []⟩

def isUnderline (f : Frame) : Bool := f.tag = .emphasis .underline

def children (f : Frame) : List Node := f.nodes.reverse

end Frame

/-! ## Display math in paragraphs -/

def isDisplayMath : Node → Bool
  | .math .display _ => true
  | _ => false

/-- Whether a node is white space: blank text, or a line break. -/
def isBlankNode : Node → Bool
  | .text t => Text.isBlankText t
  | .lineBreak => true
  | _ => false

/-- A paragraph for a run of nodes, unless all of them are blank. -/
def paragraphOf (run : List Node) : List Node := if run.all isBlankNode then [] else [.paragraph run]

/-- Splits children around display math. `run` are the nodes since the last formula, latest first. -/
def splitAround (run : List Node) : List Node → List Node
  | [] => paragraphOf run.reverse
  | n :: ns =>
    if isDisplayMath n then paragraphOf run.reverse ++ n :: splitAround [] ns else splitAround (n :: run) ns

/-- The blocks of a paragraph: the paragraph itself, or the pieces around its display math. -/
def liftDisplayMath (children : List Node) : List Node :=
  if children.any isDisplayMath then splitAround [] children else [.paragraph children]

/-! ## The stack -/

/-- The tree under construction: the open frames, innermost first, around the nodes of the
document, latest first. -/
structure Builder where
  frames : List Frame
  nodes : List Node

namespace Builder

def empty : Builder := ⟨[], []⟩

def addAll (b : Builder) (ns : List Node) : Builder :=
  match b.frames with
  | [] => { b with nodes := ns.reverse ++ b.nodes }
  | f :: fs => { b with frames := { f with nodes := ns.reverse ++ f.nodes } :: fs }

def add (b : Builder) (n : Node) : Builder := b.addAll [n]

/-- Adds an item to the list that the innermost frame is; outside a list its nodes stand alone. -/
def addItem (b : Builder) (item : List Node) : Builder :=
  match b.frames with
  | ⟨.list kind, nodes, items⟩ :: fs => { b with frames := ⟨.list kind, nodes, item :: items⟩ :: fs }
  | _ => b.addAll item

def addFrame (b : Builder) (f : Frame) : Builder :=
  match f.tag with
  | .paragraph => b.addAll (liftDisplayMath f.children)
  | .heading level => b.add (.heading level f.children)
  | .blockQuote => b.add (.blockQuote f.children)
  | .list kind => b.add (.list kind f.items.reverse)
  | .item => b.addItem f.children
  | .emphasis style => b.add (.emphasis style f.children)
  | .link url => b.add (.link url f.children)
  | .image url => b.add (.image (.ofPath url))
  | .codeBlock info => b.add (.codeBlock (if info = [] then none else some info) (Node.plainTextAll f.children))
  | .htmlBlock => b.addAll f.children

def openFrame (b : Builder) (tag : Tag) : Builder := { b with frames := Frame.ofTag tag :: b.frames }

def closeFrame (b : Builder) : Builder :=
  match b.frames with
  | [] => b
  | f :: fs => addFrame { b with frames := fs } f

def underlineOpen (b : Builder) : Bool :=
  match b.frames with
  | [] => false
  | f :: _ => f.isUnderline

/-- Closes at most `n` underlines, the innermost first. -/
def closeUnderlines : Nat → Builder → Builder
  | 0, b => b
  | n + 1, b => if b.underlineOpen then closeUnderlines n b.closeFrame else b

/-- Closes the frame of a stop, and the underlines left open in it. -/
def stop (b : Builder) : Builder := (closeUnderlines b.frames.length b).closeFrame

/-- Takes a piece of inline HTML: the two underline tags open and close, all other is raw. -/
def inlineHtml (b : Builder) (html : Text) : Builder :=
  let tag := Text.trim html
  if tag = ['<', 'u', '>'] then b.openFrame (.emphasis .underline)
  else if tag = ['<', '/', 'u', '>'] then if b.underlineOpen then b.closeFrame else b
  else b.add (.raw html)

def event (b : Builder) : Event → Builder
  | .start tag => b.openFrame tag
  | .stop => b.stop
  | .text t => b.add (.text t)
  | .code s => b.add (.code s)
  | .math .inline s => b.add (.math .inline s)
  | .math .display s => b.add (.math .display (Text.trim s))
  | .html h => b.add (.raw h)
  | .inlineHtml h => b.inlineHtml h
  | .softBreak => b.add (.text ['\n'])
  | .hardBreak => b.add .lineBreak
  | .rule => b.add .rule

/-- Closes at most `n` frames. -/
def closeAll : Nat → Builder → Builder
  | 0, b => b
  | n + 1, b => closeAll n b.closeFrame

def finish (b : Builder) : List Node := (closeAll b.frames.length b).nodes.reverse

end Builder

def buildTree (events : List Event) : List Node := (events.foldl Builder.event .empty).finish

end Coursebook.Markup
