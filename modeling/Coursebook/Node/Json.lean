/-
Document trees as JSON. A node is an object whose member `type` names its
kind, in front of the fields of that kind; the fields of an image stand
beside its type.

A tree of any depth is written, but only `Json.maxNesting` levels of arrays
and objects are read. A block quote is two of them.
-/
import Coursebook.Json.Record
import Coursebook.Node

namespace Coursebook

/-! ## Images -/

def Length.toJson (l : Length) : Json := .record [("unit", .string l.unitName), ("value", .real l.value)]

def Length.ofJson? (v : Json) : Option Length := do
  let (unitName, value) ← Json.tagAndContent? "unit" "value" v
  let x ← Json.asFloat value
  if unitName = "px".toList then some (.px x)
  else if unitName = "percent".toList then some (.percent x)
  else none

namespace Image

def members (i : Image) : List (String × Json) :=
  [("path", .string i.path), ("width", .ofOption Length.toJson i.width), ("height", .ofOption Length.toJson i.height)]

def toJson (i : Image) : Json := .record i.members

def ofJson? (v : Json) : Option Image := do
  let r ← Json.Record.ofJson? ["path", "width", "height"] v
  return ⟨← r.required "path" Json.asText, ← r.optional "width" Length.ofJson?, ← r.optional "height" Length.ofJson?⟩

end Image

/-! ## Names -/

def Command.ListKind.name : Command.ListKind → Text
  | .ordered => "ordered".toList
  | .unordered => "unordered".toList

def Command.ListKind.ofJson? : Json → Option Command.ListKind :=
  Json.asOneOf Command.ListKind.name [.ordered, .unordered]

namespace EmphasisStyle

def name : EmphasisStyle → Text
  | .strong => "strong".toList
  | .italic => "italic".toList
  | .underline => "underline".toList
  | .strike => "strike".toList

def ofJson? : Json → Option EmphasisStyle := Json.asOneOf name [.strong, .italic, .underline, .strike]

end EmphasisStyle

def Category.ofJson? : Json → Option Category := Json.asOneOf Category.name Category.all

/-! ## Nodes -/

namespace Node

def kindRecord (kind : String) (fields : List (String × Json)) : Json := .record (("type", .str kind) :: fields)

mutual

def toJson : Node → Json
  | heading level cs => kindRecord "heading" [("level", .nat level), ("children", .array (toJsonAll cs))]
  | paragraph cs => kindRecord "paragraph" [("children", .array (toJsonAll cs))]
  | list kind items => kindRecord "list" [("kind", .string kind.name), ("items", .array (toJsonItems items))]
  | math .inline s => kindRecord "math_inline" [("source", .string s)]
  | math .display s => kindRecord "math_display" [("source", .string s)]
  | image i => kindRecord "image" i.members
  | section_ c cs => kindRecord "section" [("category", .string c.name), ("children", .array (toJsonAll cs))]
  | emphasis style cs => kindRecord "emphasis" [("style", .string style.name), ("children", .array (toJsonAll cs))]
  | lineBreak => kindRecord "line_break" []
  | code s => kindRecord "code" [("source", .string s)]
  | codeBlock language s => kindRecord "code_block" [("language", .ofOption .string language), ("source", .string s)]
  | link url cs => kindRecord "link" [("url", .string url), ("children", .array (toJsonAll cs))]
  | blockQuote cs => kindRecord "block_quote" [("children", .array (toJsonAll cs))]
  | rule => kindRecord "rule" []
  | text t => kindRecord "text" [("text", .string t)]
  | raw html => kindRecord "raw" [("html", .string html)]

def toJsonAll : List Node → List Json
  | [] => []
  | n :: ns => toJson n :: toJsonAll ns

def toJsonItems : List (List Node) → List Json
  | [] => []
  | i :: is => .array (toJsonAll i) :: toJsonItems is

end

/-- Reads a node whose parts are read by `read`. -/
def ofTagged? (read : Json → Option Node) (tag : String) (v : Json) : Option Node := do
  let nodes := Json.asList read
  match tag with
  | "heading" =>
    let r ← Json.Record.ofJson? ["level", "children"] v
    return heading (← r.required "level" Json.asByte) (← r.required "children" nodes)
  | "paragraph" =>
    let r ← Json.Record.ofJson? ["children"] v
    return paragraph (← r.required "children" nodes)
  | "list" =>
    let r ← Json.Record.ofJson? ["kind", "items"] v
    return list (← r.required "kind" Command.ListKind.ofJson?) (← r.required "items" (Json.asList nodes))
  | "math_inline" => return math .inline (← source v)
  | "math_display" => return math .display (← source v)
  | "image" => return image (← Image.ofJson? v)
  | "section" =>
    let r ← Json.Record.ofJson? ["category", "children"] v
    return section_ (← r.required "category" Category.ofJson?) (← r.required "children" nodes)
  | "emphasis" =>
    let r ← Json.Record.ofJson? ["style", "children"] v
    return emphasis (← r.required "style" EmphasisStyle.ofJson?) (← r.required "children" nodes)
  | "line_break" => if Json.isUnit v then return lineBreak else none
  | "code" => return code (← source v)
  | "code_block" =>
    let r ← Json.Record.ofJson? ["language", "source"] v
    return codeBlock (← r.optional "language" Json.asText) (← r.required "source" Json.asText)
  | "link" =>
    let r ← Json.Record.ofJson? ["url", "children"] v
    return link (← r.required "url" Json.asText) (← r.required "children" nodes)
  | "block_quote" =>
    let r ← Json.Record.ofJson? ["children"] v
    return blockQuote (← r.required "children" nodes)
  | "rule" => if Json.isUnit v then return rule else none
  | "text" => return text (← (← Json.Record.ofJson? ["text"] v).required "text" Json.asText)
  | "raw" => return raw (← (← Json.Record.ofJson? ["html"] v).required "html" Json.asText)
  | _ => none
where
  /-- The field of the nodes that are one source text. -/
  source (v : Json) : Option Text := do (← Json.Record.ofJson? ["source"] v).required "source" Json.asText

/-- Reads a node of at most `depth` nodes above each other. -/
def ofJsonWithin? : (depth : Nat) → Json → Option Node
  | 0, _ => none
  | depth + 1, v => do
    let (tag, rest) ← Json.tagged? v
    ofTagged? (ofJsonWithin? depth) (String.ofList tag) rest

end Node

namespace Json

mutual

/-- How many levels of arrays and objects there are. -/
def height : Json → Nat
  | .array items => 1 + heightAll items
  | .object members => 1 + heightMembers members
  | _ => 0

def heightAll : List Json → Nat
  | [] => 0
  | v :: vs => max (height v) (heightAll vs)

def heightMembers : List (Text × Json) → Nat
  | [] => 0
  | (_, v) :: ms => max (height v) (heightMembers ms)

end

end Json

/-- Reads a node. All of it is read before its fields are sorted out, so every part of it has to have
a value, also a part that no field uses, and none may be nested too deeply. -/
def Node.ofJson? (v : Json) : Option Node :=
  if v.isReadable Json.maxNesting then Node.ofJsonWithin? (v.height + 1) v else none

/-- Reads nodes; the list is a level of nesting. -/
def Node.listOfJson? (v : Json) : Option (List Node) :=
  if v.isReadable Json.maxNesting then Json.asList Node.ofJson? v else none

def Node.listToJson (ns : List Node) : Json := .array (Node.toJsonAll ns)

end Coursebook
