/-
A document tree as HTML. White space at the end of a paragraph and of the
whole is dropped, and so is the line end behind the last block of an item.
-/
import Coursebook.Render.Options

namespace Coursebook

/-! ## Tags -/

def EmphasisStyle.tag : EmphasisStyle → String
  | .strong => "strong"
  | .italic => "em"
  | .underline => "u"
  | .strike => "del"

def Command.ListKind.tag : Command.ListKind → String
  | .ordered => "ol"
  | .unordered => "ul"

namespace Html

def lineEnd : Text := ['\n']

def dropLineEnd (s : Text) : Text := if s.getLast? = some '\n' then s.dropLast else s

def sectionAttributes (c : Category) : Text :=
  attr "class" ("section section-".toList ++ c.name) ++ attr "data-category" c.name

def ofImage (o : RenderOptions) (i : Image) : Text :=
  opening "img".toList
    (attr "class" "lesson-image".toList ++ attr "src" (escapeQuoted (o.imagePrefix ++ i.path))
      ++ attr "alt" [] ++ attr "style" i.style)

def ofHeading (o : RenderOptions) (level : Nat) (content : Text) : Text :=
  let name := 'h' :: Text.ofNat (o.headingLevel level)
  opening name [] ++ content ++ closing name ++ lineEnd

/-! ## Nodes -/

mutual

def ofNode (o : RenderOptions) : Node → Text
  | .section_ c cs => element "section" (sectionAttributes c) (lineEnd ++ ofNodes o cs) ++ lineEnd
  | .heading level cs => ofHeading o level (ofNodes o cs)
  | .paragraph cs => element "p" [] (Text.trimEnd (ofNodes o cs)) ++ lineEnd
  | .list kind items => element kind.tag [] (lineEnd ++ ofItems o items) ++ lineEnd
  | .math .inline s => o.typesetter.inline s
  | .math .display s => o.typesetter.display s ++ lineEnd
  | .image i => ofImage o i
  | .emphasis style cs => element style.tag [] (ofNodes o cs)
  | .lineBreak => opening "br".toList [] ++ lineEnd
  | .code s => element "code" [] (escape s)
  | .codeBlock language s =>
    let attributes := language.elim [] fun l => attr "class" ("language-".toList ++ escapeQuoted l)
    element "pre" [] (element "code" attributes (escape s)) ++ lineEnd
  | .link url cs => element "a" (attr "href" (escapeQuoted url)) (ofNodes o cs)
  | .blockQuote cs => element "blockquote" [] (lineEnd ++ ofNodes o cs) ++ lineEnd
  | .rule => opening "hr".toList [] ++ lineEnd
  | .text t => escape t
  | .raw html => html

def ofNodes (o : RenderOptions) : List Node → Text
  | [] => []
  | n :: ns => ofNode o n ++ ofNodes o ns

def ofItems (o : RenderOptions) : List (List Node) → Text
  | [] => []
  | i :: is => element "li" [] (dropLineEnd (ofNodes o i)) ++ lineEnd ++ ofItems o is

end

def ofDocument (o : RenderOptions) (ns : List Node) : Text := Text.trimEnd (ofNodes o ns)

end Html

end Coursebook
