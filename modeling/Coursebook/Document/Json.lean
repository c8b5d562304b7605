/-
Documents as JSON. A record may leave out everything; a block is an object
whose member `type` names its kind.
-/
import Coursebook.Document
import Coursebook.Json.Read
import Coursebook.Json.Record

namespace Coursebook

namespace DocumentKind

def name : DocumentKind → Text
  | .lesson => "lesson".toList
  | .exercise => "exercise".toList
  | .lessonPlan => "lesson_plan".toList

def ofJson? : Json → Option DocumentKind := Json.asOneOf name [.lesson, .exercise, .lessonPlan]

end DocumentKind

namespace Block

def kindRecord (kind : String) (fields : List (String × Json)) : Json := .record (("type", .str kind) :: fields)

def optionalField (s : Option Text) : Json := .ofOption .string s

def toJson : Block → Json
  | introduction body => kindRecord "introduction" [("body", .string body)]
  | definition term body => kindRecord "definition" [("term", optionalField term), ("body", .string body)]
  | theorem_ name statement proof =>
    kindRecord "theorem" [("name", optionalField name), ("statement", .string statement), ("proof", optionalField proof)]
  | formula name body => kindRecord "formula" [("name", optionalField name), ("body", .string body)]
  | example_ title body => kindRecord "example" [("title", optionalField title), ("body", .string body)]
  | exercise statement solution =>
    kindRecord "exercise" [("statement", .string statement), ("solution", optionalField solution)]
  | summary body => kindRecord "summary" [("body", .string body)]
  | alert body => kindRecord "alert" [("body", .string body)]
  | text body => kindRecord "text" [("body", .string body)]

def bodyOf? (v : Json) : Option Text := do (← Json.Record.ofJson? ["body"] v).required "body" Json.asText

/-- Reads an optional field; it may be missing. -/
def optionalOf? (r : Json.Record) (name : String) : Option (Option Text) :=
  r.withDefault name (Json.asOption Json.asText) none

/-- Reads a named body: the name under a name of its own, and the body. -/
def namedBodyOf? (nameField : String) (v : Json) : Option (Option Text × Text) := do
  let r ← Json.Record.ofJson? [nameField, "body"] v
  return (← optionalOf? r nameField, ← r.required "body" Json.asText)

def ofJson? (v : Json) : Option Block := do
  let (tag, rest) ← Json.tagged? v
  match String.ofList tag with
  | "introduction" => return introduction (← bodyOf? rest)
  | "definition" => let (term, body) ← namedBodyOf? "term" rest; return definition term body
  | "theorem" =>
    let r ← Json.Record.ofJson? ["name", "statement", "proof"] rest
    return theorem_ (← optionalOf? r "name") (← r.required "statement" Json.asText) (← optionalOf? r "proof")
  | "formula" => let (name, body) ← namedBodyOf? "name" rest; return formula name body
  | "example" => let (title, body) ← namedBodyOf? "title" rest; return example_ title body
  | "exercise" =>
    let r ← Json.Record.ofJson? ["statement", "solution"] rest
    return exercise (← r.required "statement" Json.asText) (← optionalOf? r "solution")
  | "summary" => return summary (← bodyOf? rest)
  | "alert" => return alert (← bodyOf? rest)
  | "text" => return text (← bodyOf? rest)
  | _ => none

end Block

namespace Record

def toJson (r : Record) : Json :=
  .record [("title", .ofOption .string r.title), ("kind", .string r.kind.name), ("blocks", .ofList Block.toJson r.blocks)]

/-- Reads the blocks of a record. All of a block is read before its fields are sorted out, so every
part of it has to have a value, also a part that no field uses. The record is a level of nesting. -/
def blocksOfJson? (v : Json) : Option (List Block) :=
  if v.isReadable (Json.maxNesting - 1) then Json.asList Block.ofJson? v else none

def ofJson? (v : Json) : Option Record := do
  let r ← Json.Record.ofJson? ["title", "kind", "blocks"] v
  return ⟨← r.withDefault "title" (Json.asOption Json.asText) none, ← r.withDefault "kind" DocumentKind.ofJson? .lesson,
    ← r.withDefault "blocks" blocksOfJson? []⟩

def read? (s : Text) : Option Record := (Json.read? s).bind ofJson?

end Record

namespace Document

def toJson : Document → Json
  | .text content => .record [("format", .str "text"), ("content", .string content)]
  | .structured r => .record [("format", .str "structured"), ("content", r.toJson)]

def ofJson? (v : Json) : Option Document := do
  let (format, content) ← Json.tagAndContent? "format" "content" v
  match String.ofList format with
  | "text" => return .text (← Json.asText content)
  | "structured" => return .structured (← Record.ofJson? content)
  | _ => none

end Document

end Coursebook
