/-
Options as JSON. Every field may be left out, but for the margins of a page,
which are given in full or not at all.
-/
import Coursebook.Capture.Session
import Coursebook.Document.Json
import Coursebook.Node.Json
import Coursebook.Render

namespace Coursebook

/-! ## Reading and rendering -/

namespace ParseOptions

def toJson (o : ParseOptions) : Json := .record [("strikethrough", .bool o.strikethrough), ("expand_images", .bool o.expandImages)]

def ofJson? (v : Json) : Option ParseOptions := do
  let r ← Json.Record.ofJson? ["strikethrough", "expand_images"] v
  return ⟨← r.withDefault "strikethrough" Json.asBool true, ← r.withDefault "expand_images" Json.asBool true⟩

end ParseOptions

namespace SectionOptions

def toJson (o : SectionOptions) : Json := .record [("enabled", .bool o.enabled), ("levels", .ofList .nat o.levels)]

def ofJson? (v : Json) : Option SectionOptions := do
  let r ← Json.Record.ofJson? ["enabled", "levels"] v
  return ⟨← r.withDefault "enabled" Json.asBool true, ← r.withDefault "levels" (Json.asList Json.asByte) [2, 3]⟩

end SectionOptions

def MathMode.ofJson? : Json → Option MathMode := Json.asOneOf MathMode.name [.client, .plain]

namespace RenderOptions

/-- Options for rendering. A typesetter of one's own has no name to be written with. -/
def toJson (o : RenderOptions) : Json :=
  .record [("image_path_prefix", .string o.imagePrefix), ("max_heading_level", .nat o.maxHeadingLevel),
    ("parse", o.parse.toJson), ("sectionize", o.sections.toJson), ("math", .string o.math.name),
    ("collect_stats", .bool o.collectStats)]

def ofJson? (v : Json) : Option RenderOptions := do
  let r ← Json.Record.ofJson? ["image_path_prefix", "max_heading_level", "parse", "sectionize", "math", "collect_stats"] v
  let o : RenderOptions := {}
  return {
    imagePrefix := ← r.withDefault "image_path_prefix" Json.asText o.imagePrefix
    maxHeadingLevel := ← r.withDefault "max_heading_level" Json.asByte o.maxHeadingLevel
    parse := ← r.withDefault "parse" ParseOptions.ofJson? o.parse
    sections := ← r.withDefault "sectionize" SectionOptions.ofJson? o.sections
    math := ← r.withDefault "math" MathMode.ofJson? o.math
    collectStats := ← r.withDefault "collect_stats" Json.asBool o.collectStats }

end RenderOptions

def Stats.toJson (s : Stats) : Json :=
  .record [("section_count", .nat s.sections),
    ("categories", .ofList (fun (c, n) => .array [.string c.name, .nat n]) s.categories),
    ("heading_count", .nat s.headings), ("paragraph_count", .nat s.paragraphs), ("list_item_count", .nat s.items),
    ("image_count", .nat s.images), ("inline_math_count", .nat s.inlineMath),
    ("display_math_count", .nat s.displayMath), ("word_count", .nat s.words)]

/-! ## Pages and captures -/

namespace AgentOptions

def toJson (o : AgentOptions) : Json :=
  .record [("settle_delay_ms", .nat o.settleDelay), ("final_delay_ms", .nat o.finalDelay), ("marker_id", .string o.marker)]

def ofJson? (v : Json) : Option AgentOptions := do
  let r ← Json.Record.ofJson? ["settle_delay_ms", "final_delay_ms", "marker_id"] v
  let o : AgentOptions := {}
  return ⟨← r.withDefault "settle_delay_ms" Json.asWord o.settleDelay,
    ← r.withDefault "final_delay_ms" Json.asWord o.finalDelay, ← r.withDefault "marker_id" Json.asText o.marker⟩

end AgentOptions

namespace PageOptions

def toJson (o : PageOptions) : Json :=
  .record [("title", .ofOption .string o.title), ("lang", .string o.lang), ("math_engine_url", .string o.mathEngineUrl),
    ("include_math_engine", .bool o.includeMathEngine), ("extra_css", .ofOption .string o.extraCss),
    ("include_agent", .bool o.includeAgent), ("agent", o.agent.toJson)]

def ofJson? (v : Json) : Option PageOptions := do
  let r ← Json.Record.ofJson?
    ["title", "lang", "math_engine_url", "include_math_engine", "extra_css", "include_agent", "agent"] v
  let o : PageOptions := {}
  return {
    title := ← r.withDefault "title" (Json.asOption Json.asText) o.title
    lang := ← r.withDefault "lang" Json.asText o.lang
    mathEngineUrl := ← r.withDefault "math_engine_url" Json.asText o.mathEngineUrl
    includeMathEngine := ← r.withDefault "include_math_engine" Json.asBool o.includeMathEngine
    extraCss := ← r.withDefault "extra_css" (Json.asOption Json.asText) o.extraCss
    includeAgent := ← r.withDefault "include_agent" Json.asBool o.includeAgent
    agent := ← r.withDefault "agent" AgentOptions.ofJson? o.agent }

end PageOptions

namespace Capture

namespace Options

def toJson (o : Options) : Json :=
  .record [("marker_timeout_ms", .nat o.timeout), ("poll_interval_ms", .nat o.pollInterval), ("marker_id", .string o.marker)]

def ofJson? (v : Json) : Option Options := do
  let r ← Json.Record.ofJson? ["marker_timeout_ms", "poll_interval_ms", "marker_id"] v
  let o : Options := {}
  return ⟨← r.withDefault "marker_timeout_ms" Json.asWord o.timeout,
    ← r.withDefault "poll_interval_ms" Json.asWord o.pollInterval, ← r.withDefault "marker_id" Json.asText o.marker⟩

end Options

namespace PageSize

def toJson : PageSize → Json
  | a4 => .str "A4"
  | letter => .str "Letter"
  | custom width height => .record [("Custom", .record [("width_mm", .real width), ("height_mm", .real height)])]

def ofJson? (v : Json) : Option PageSize :=
  match Json.asName v with
  | some name =>
    if name = "A4".toList then some a4 else if name = "Letter".toList then some letter else none
  | none =>
    match v with
    | .object [(name, .object members)] => do
      if name ≠ "Custom".toList then none
      let r ← Json.Record.ofJson? ["width_mm", "height_mm"] (.object members)
      return custom (← r.required "width_mm" Json.asFloat) (← r.required "height_mm" Json.asFloat)
    | _ => none

end PageSize

namespace Margins

def toJson (m : Margins) : Json :=
  .record [("top", .real m.top), ("right", .real m.right), ("bottom", .real m.bottom), ("left", .real m.left)]

def ofJson? (v : Json) : Option Margins := do
  let r ← Json.Record.ofJson? ["top", "right", "bottom", "left"] v
  return ⟨← r.required "top" Json.asFloat, ← r.required "right" Json.asFloat, ← r.required "bottom" Json.asFloat,
    ← r.required "left" Json.asFloat⟩

end Margins

namespace PrintRequest

def toJson (p : PrintRequest) : Json :=
  .record [("page_size", p.pageSize.toJson), ("margins", p.margins.toJson), ("print_background", .bool p.background)]

def ofJson? (v : Json) : Option PrintRequest := do
  let r ← Json.Record.ofJson? ["page_size", "margins", "print_background"] v
  return ⟨← r.withDefault "page_size" PageSize.ofJson? .a4, ← r.withDefault "margins" Margins.ofJson? {},
    ← r.withDefault "print_background" Json.asBool true⟩

end PrintRequest

def Target.ofJson? (v : Json) : Option Target := do
  let (kind, value) ← Json.tagAndContent? "kind" "value" v
  let s ← Json.asText value
  if kind = "url".toList then some (.url s) else if kind = "html".toList then some (.html s) else none

end Capture

/-! ## Checks -/

namespace Integrity

namespace Options

def toJson (o : Options) : Json :=
  .record [("min_sentence_len", .nat o.minSentence), ("malformed_math_threshold", .nat o.mathThreshold),
    ("check_repetition", .bool o.checkRepetition), ("check_math", .bool o.checkMath)]

def ofJson? (v : Json) : Option Options := do
  let r ← Json.Record.ofJson? ["min_sentence_len", "malformed_math_threshold", "check_repetition", "check_math"] v
  let o : Options := {}
  return ⟨← r.withDefault "min_sentence_len" Json.asWord o.minSentence,
    ← r.withDefault "malformed_math_threshold" Json.asWord o.mathThreshold,
    ← r.withDefault "check_repetition" Json.asBool o.checkRepetition, ← r.withDefault "check_math" Json.asBool o.checkMath⟩

end Options

def Preset.ofJson? : Json → Option Preset := Json.asOneOf Preset.name [.lenient, .standard, .strict]

def FindingKind.fieldName : FindingKind → Text
  | corruption => "corrupted_token".toList
  | falseIdentity => "false_identity".toList
  | repetition => "repeated_sentence".toList
  | malformedMath => "malformed_math".toList

def Finding.toJson (f : Finding) : Json := .record [("kind", .string f.kind.fieldName), ("detail", .string f.detail)]

def Finding.ofJson? (v : Json) : Option Finding := do
  let r ← Json.Record.ofJson? ["kind", "detail"] v
  return ⟨← r.required "kind" (Json.asOneOf FindingKind.fieldName FindingKind.all), ← r.required "detail" Json.asText⟩

def Report.toJson (r : Report) : Json :=
  .record [("findings", .ofList Finding.toJson r.findings), ("should_reject", .bool r.rejects)]

end Integrity

/-! ## Configuration files -/

/-- What a configuration file sets. -/
structure Configuration where
  render : RenderOptions := {}
  page : PageOptions := {}
  integrity : Integrity.Options := {}

namespace Configuration

def ofJson? (v : Json) : Option Configuration := do
  let r ← Json.Record.ofJson? ["render", "page", "validation"] v
  return ⟨← r.withDefault "render" RenderOptions.ofJson? {}, ← r.withDefault "page" PageOptions.ofJson? {},
    ← r.withDefault "validation" Integrity.Options.ofJson? {}⟩

def read? (s : Text) : Option Configuration := (Json.read? s).bind ofJson?

end Configuration

end Coursebook
