/-
Reading markup: the blocks of a text, the lines in them, and the document
tree they make up.
-/
import Coursebook.Image.Expand
import Coursebook.Markup.Emphasis
import Coursebook.Markup.Tree

namespace Coursebook

/-- How markup is read: whether two tildes strike text through, and whether image notations in texts
are read as images. -/
structure ParseOptions where
  strikethrough : Bool := true
  expandImages : Bool := true
deriving Repr, DecidableEq

namespace Markup

def leafEvents (definitions : Definitions) (leaf : Leaf) (s : Text) : List Event :=
  inlineEvents (leaf.inlines definitions s)

def headingEvents (level : Nat) (events : List Event) : List Event := .start (.heading level) :: events ++ [.stop]

def HtmlPiece.event : HtmlPiece → Event
  | .line html => .html html
  | .indent spaces => .text spaces

mutual

/-- The events of a block. Paragraphs that stand in a tight list are not marked as such. -/
def MarkupBlock.events (strikethrough : Bool) (definitions : Definitions) (tight : Bool) : MarkupBlock → List Event
  | .paragraph containers s =>
    let events := leafEvents definitions ⟨containers, strikethrough, false⟩ s
    if tight then events else .start .paragraph :: events ++ [.stop]
  | .heading level containers s => headingEvents level (leafEvents definitions ⟨containers, strikethrough, false⟩ s)
  | .title level s => headingEvents level (leafEvents definitions ⟨[], strikethrough, true⟩ s)
  | .quote blocks => .start .blockQuote :: blocksEvents strikethrough definitions false blocks ++ [.stop]
  | .list tight kind items => .start (.list kind) :: itemsEvents strikethrough definitions tight items ++ [.stop]
  | .code info content => [.start (.codeBlock info), .text content, .stop]
  | .html pieces => .start .htmlBlock :: pieces.map HtmlPiece.event ++ [.stop]
  | .rule => [.rule]

def blocksEvents (strikethrough : Bool) (definitions : Definitions) (tight : Bool) : List MarkupBlock → List Event
  | [] => []
  | b :: more => b.events strikethrough definitions tight ++ blocksEvents strikethrough definitions tight more

def itemsEvents (strikethrough : Bool) (definitions : Definitions) (tight : Bool) : List (List MarkupBlock) → List Event
  | [] => []
  | item :: more =>
    .start .item :: blocksEvents strikethrough definitions tight item ++ .stop
      :: itemsEvents strikethrough definitions tight more

end

def events (strikethrough : Bool) (s : Text) : List Event :=
  let r := Reading.ofText s
  blocksEvents strikethrough r.definitions false r.blocks.reverse

/-- The document tree of a markup text, without its image notations. -/
def parseTree (options : ParseOptions) (s : Text) : List Node := buildTree (events options.strikethrough s)

def parse (options : ParseOptions) (s : Text) : List Node :=
  let nodes := parseTree options s
  if options.expandImages then (Node.expandAll nodes).1 else nodes

end Markup

end Coursebook
