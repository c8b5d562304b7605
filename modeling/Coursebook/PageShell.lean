/-
A rendered document as a page of its own: the shell with its styles, the
engine for formulas and the agent.
-/
import Coursebook.Capture.Agent
import Coursebook.Html

namespace Coursebook

/-- What a page holds besides its document. -/
structure PageOptions where
  title : Option Text := none
  lang : Text := "fr".toList
  mathEngineUrl : Text := "https://cdn.jsdelivr.net/npm/mathjax@3/es5/tex-chtml.js".toList
  includeMathEngine : Bool := true
  extraCss : Option Text := none
  includeAgent : Bool := true
  agent : AgentOptions := {}
deriving Repr, DecidableEq

namespace PageShell

def lines (ls : List String) : Text := ls.flatMap fun line => line.toList ++ ['\n']

def styleSheet : Text := lines
  ["@page \x7b margin: 0; \x7d",
    "html \x7b -webkit-print-color-adjust: exact; print-color-adjust: exact; \x7d",
    "body \x7b font-family: \"Latin Modern Roman\", Georgia, serif; line-height: 1.5; max-width: 190mm; margin: 0 auto; padding: 12mm 10mm; color: #1d1d1f; \x7d",
    "h1, h2, h3, h4 \x7b line-height: 1.25; break-after: avoid-page; \x7d",
    "img \x7b display: block; margin: 0.75em auto; \x7d",
    ".math-display \x7b margin: 0.75em 0; overflow-x: auto; text-align: center; \x7d",
    ".section \x7b margin: 1em 0; padding: 0.5em 1em; border-left: 4px solid #9aa0a6; border-radius: 4px; break-inside: avoid-page; \x7d",
    ".section > :first-child \x7b margin-top: 0.25em; \x7d",
    ".section-introduction \x7b border-color: #5f6368; background: #f8f9fa; \x7d",
    ".section-definition \x7b border-color: #1a73e8; background: #e8f0fe; \x7d",
    ".section-theorem \x7b border-color: #188038; background: #e6f4ea; \x7d",
    ".section-formula \x7b border-color: #9334e6; background: #f3e8fd; \x7d",
    ".section-example \x7b border-color: #e37400; background: #fef7e0; \x7d",
    ".section-exercise \x7b border-color: #d93025; background: #fce8e6; \x7d",
    ".section-summary \x7b border-color: #007b83; background: #e4f7fb; \x7d",
    ".section-alert \x7b border-color: #b31412; background: #fad2cf; \x7d",
    "details.solution \x7b margin: 0.5em 0; \x7d",
    "details.solution > summary \x7b cursor: pointer; font-weight: bold; \x7d"]

def mathSettings : Text := lines
  ["window.MathJax = \x7b",
    "  tex: \x7b inlineMath: [[\"\\\\(\", \"\\\\)\"]], displayMath: [[\"\\\\[\", \"\\\\]\"]], processEscapes: true \x7d,",
    "  options: \x7b processHtmlClass: \"math\" \x7d,",
    "  startup: \x7b typeset: true \x7d",
    "\x7d;"]

def head (o : PageOptions) : Text :=
  lines ["<!DOCTYPE html>"] ++ Html.opening "html".toList (Html.attr "lang" (Html.escapeQuoted o.lang)) ++ ['\n']
    ++ lines ["<head>", "<meta charset=\"utf-8\">",
      "<meta name=\"viewport\" content=\"width=device-width, initial-scale=1\">"]
    ++ (o.title.elim [] fun t => Html.element "title" [] (Html.escape t) ++ ['\n'])

def styles (o : PageOptions) : Text :=
  lines ["<style>"] ++ styleSheet ++ (o.extraCss.elim [] (· ++ ['\n'])) ++ lines ["</style>"]

def mathEngine (o : PageOptions) : Text :=
  if o.includeMathEngine then
    lines ["<script>"] ++ mathSettings ++ lines ["</script>"]
      ++ Html.opening "script".toList
        (Html.attr "id" "math-engine".toList ++ " async".toList ++ Html.attr "src" (Html.escapeQuoted o.mathEngineUrl))
      ++ Html.closing "script".toList ++ ['\n']
  else []

def agent (o : PageOptions) : Text :=
  if o.includeAgent then lines ["<script>"] ++ Agent.script o.agent ++ lines ["</script>"] else []

def wrap (o : PageOptions) (body : Text) : Text :=
  head o ++ styles o ++ mathEngine o ++ lines ["</head>", "<body>", "<main class=\"lesson\">"] ++ body ++ ['\n']
    ++ lines ["</main>"] ++ agent o ++ lines ["</body>", "</html>"]

end PageShell

end Coursebook
