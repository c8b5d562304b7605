/-
The document tree. A node owns its children, a list owns one sequence of
nodes for each item, and a document is a sequence of nodes.
-/
import Coursebook.Command.ListBlock
import Coursebook.Image
import Coursebook.Segment

namespace Coursebook

/-- Kinds of inline emphasis. -/
inductive EmphasisStyle where
  | strong
  | italic
  | underline
  | strike
deriving Repr, DecidableEq

/-- What a section is about. -/
inductive Category where
  | introduction
  | definition
  | theorem_
  | formula
  | example_
  | exercise
  | summary
  | alert
  | generic
deriving Repr, DecidableEq, Inhabited

def Category.all : List Category :=
  [.introduction, .definition, .theorem_, .formula, .example_, .exercise, .summary, .alert, .generic]

/-- The name of a category in style sheets and records. -/
def Category.name : Category → Text
  | .introduction => "introduction".toList
  | .definition => "definition".toList
  | .theorem_ => "theorem".toList
  | .formula => "formula".toList
  | .example_ => "example".toList
  | .exercise => "exercise".toList
  | .summary => "summary".toList
  | .alert => "alert".toList
  | .generic => "generic".toList

/-- A node of the document tree. -/
inductive Node where
  | heading (level : Nat) (children : List Node)
  | paragraph (children : List Node)
  | list (kind : Command.ListKind) (items : List (List Node))
  | math (kind : MathKind) (source : Text)
  | image (image : Image)
  | section_ (category : Category) (children : List Node)
  | emphasis (style : EmphasisStyle) (children : List Node)
  | lineBreak
  | code (source : Text)
  | codeBlock (language : Option Text) (source : Text)
  | link (url : Text) (children : List Node)
  | blockQuote (children : List Node)
  | rule
  | text (text : Text)
  | raw (html : Text)
deriving Inhabited, Repr

namespace Node

/-- A heading whose title is plain text, of a level from one to six. -/
def plainHeading (level : Nat) (title : Text) : Node := heading (max 1 (min level 6)) [text title]

def plainParagraph (content : Text) : Node := paragraph [text content]

def headingLevel? : Node → Option Nat
  | heading level _ => some level
  | _ => none

def isHeading (n : Node) : Bool := n.headingLevel?.isSome

def category? : Node → Option Category
  | section_ c _ => some c
  | _ => none

def isSection (n : Node) : Bool := n.category?.isSome

def isImage : Node → Bool
  | image _ => true
  | _ => false

/-- The direct children of a node, those of list items in a row. -/
def children : Node → List Node
  | heading _ cs | paragraph cs | section_ _ cs | emphasis _ cs | link _ cs | blockQuote cs => cs
  | list _ items => items.flatten
  | _ => []

/-! ## Counting -/

mutual

def count : Node → Nat
  | heading _ cs | paragraph cs | section_ _ cs | emphasis _ cs | link _ cs | blockQuote cs => 1 + countAll cs
  | list _ items => 1 + countItems items
  | _ => 1

def countAll : List Node → Nat
  | [] => 0
  | n :: ns => count n + countAll ns

def countItems : List (List Node) → Nat
  | [] => 0
  | i :: is => countAll i + countItems is

end

/-! ## Plain text -/

mutual

/-- The text of a tree without its markup. Blocks inside a section or a quote stand apart by a blank
line, items by a line ending; an image is its path. -/
def plainText : Node → Text
  | text t => t
  | code s | codeBlock _ s | math _ s => s
  | lineBreak => ['\n']
  | image i => i.path
  | rule | raw _ => []
  | list _ items => Text.join ['\n'] (plainItems items)
  | section_ _ cs | blockQuote cs => Text.join ['\n', '\n'] (plainBlocks cs)
  | heading _ cs | paragraph cs | emphasis _ cs | link _ cs => plainTextAll cs

def plainTextAll : List Node → Text
  | [] => []
  | n :: ns => plainText n ++ plainTextAll ns

def plainBlocks : List Node → List Text
  | [] => []
  | n :: ns => plainText n :: plainBlocks ns

def plainItems : List (List Node) → List Text
  | [] => []
  | i :: is => plainTextAll i :: plainItems is

end

end Node

end Coursebook
