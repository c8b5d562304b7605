/-
The agent that runs once in a loaded page and puts a marker into it when
everything has settled: disclosures opened, formulas typeset, images loaded,
with a delay in front and behind.

It is written twice: as the script that the page carries, and as a sequence
of steps on a model of a page.
-/
import Coursebook.Text.Basic

namespace Coursebook

/-! ## Options -/

def defaultMarker : Text := "lessonmark-render-ready".toList

/-- The delays of the agent in milliseconds, and the identifier of its marker. -/
structure AgentOptions where
  settleDelay : Nat := 300
  finalDelay : Nat := 200
  marker : Text := defaultMarker
deriving Repr, DecidableEq

namespace Agent

/-! ## The script -/

def markerSlot : Text := "__MARKER_ID__".toList

def settleSlot : Text := "__SETTLE_MS__".toList

def finalSlot : Text := "__FINAL_MS__".toList

/-- The lines of the script, with slots for the options. -/
def scriptLines : List String :=
  ["(function () \x7b",
    "  var MARKER_ID = \"__MARKER_ID__\";",
    "  var SETTLE_MS = __SETTLE_MS__;",
    "  var FINAL_MS = __FINAL_MS__;",
    "  var started = false;",
    "",
    "  function delay(ms) \x7b",
    "    return new Promise(function (resolve) \x7b setTimeout(resolve, ms); \x7d);",
    "  \x7d",
    "",
    "  function openDisclosures() \x7b",
    "    document.querySelectorAll(\"details:not([open])\").forEach(function (el) \x7b",
    "      el.open = true;",
    "      el.dispatchEvent(new Event(\"toggle\"));",
    "    \x7d);",
    "  \x7d",
    "",
    "  function mathDone() \x7b",
    "    var engine = window.MathJax;",
    "    if (!engine || !engine.startup || !engine.startup.promise) \x7b",
    "      return Promise.resolve();",
    "    \x7d",
    "    return engine.startup.promise.then(function () \x7b",
    "      return engine.typesetPromise ? engine.typesetPromise() : undefined;",
    "    \x7d).catch(function () \x7b\x7d);",
    "  \x7d",
    "",
    "  function imagesDone() \x7b",
    "    var pending = Array.prototype.map.call(document.images, function (img) \x7b",
    "      if (img.complete) \x7b return Promise.resolve(); \x7d",
    "      return new Promise(function (resolve) \x7b",
    "        img.addEventListener(\"load\", resolve, \x7b once: true \x7d);",
    "        img.addEventListener(\"error\", resolve, \x7b once: true \x7d);",
    "      \x7d);",
    "    \x7d);",
    "    return Promise.all(pending);",
    "  \x7d",
    "",
    "  function insertMarker() \x7b",
    "    if (document.getElementById(MARKER_ID)) \x7b return; \x7d",
    "    var marker = document.createElement(\"div\");",
    "    marker.id = MARKER_ID;",
    "    marker.style.display = \"none\";",
    "    document.body.appendChild(marker);",
    "  \x7d",
    "",
    "  function run() \x7b",
    "    if (started) \x7b return; \x7d",
    "    started = true;",
    "    openDisclosures();",
    "    delay(SETTLE_MS)",
    "      .then(mathDone)",
    "      .then(imagesDone)",
    "      .then(function () \x7b return delay(FINAL_MS); \x7d)",
    "      .then(insertMarker);",
    "  \x7d",
    "",
    "  if (document.readyState === \"complete\") \x7b",
    "    run();",
    "  \x7d else \x7b",
    "    window.addEventListener(\"load\", run, \x7b once: true \x7d);",
    "  \x7d",
    "\x7d)();"]

def scriptTemplate : Text := scriptLines.flatMap fun line => line.toList ++ ['\n']

/-- Whether a character may stand in the script's identifier. -/
def inIdentifier (c : Char) : Bool := Text.isAsciiAlphanumeric c || c = '-' || c = '_'

/-- The script for some options. Other characters than those of identifiers are left out of the
marker. -/
def script (o : AgentOptions) : Text :=
  let withMarker := Text.replace markerSlot (o.marker.filter inIdentifier) scriptTemplate
  let withSettle := Text.replace settleSlot (Text.ofNat o.settleDelay) withMarker
  Text.replace finalSlot (Text.ofNat o.finalDelay) withSettle

end Agent

/-! ## The steps -/

/-- What the agent sees of a page: how many disclosures are closed, whether an engine for formulas
is at work, and the identifiers of the markers. -/
structure Page where
  disclosures : Nat := 0
  mathActive : Bool := false
  markers : List Text := []
deriving Repr, DecidableEq

/-- What the agent asks of a page. -/
inductive AgentCall where
  | openDisclosures (count : Nat)
  | wait (milliseconds : Nat)
  | awaitMath
  | awaitImages
  | insertMarker (id : Text)
deriving Repr, DecidableEq

/-- How far the agent is. -/
inductive AgentState where
  | idle
  | disclosuresOpened
  | settled
  | mathTypeset
  | imagesSettled
  | ready
deriving Repr, DecidableEq

/-- An agent for one load of a page. -/
structure Agent where
  options : AgentOptions := {}
  state : AgentState := .idle
deriving Repr, DecidableEq

namespace Agent

def isDone (a : Agent) : Bool := a.state = .ready

/-- Takes one step: the agent and the page after it, and what was asked of the page. -/
def step (a : Agent) (p : Page) : Agent × Page × List AgentCall :=
  match a.state with
  | .idle => ({ a with state := .disclosuresOpened }, { p with disclosures := 0 }, [.openDisclosures p.disclosures])
  | .disclosuresOpened => ({ a with state := .settled }, p, [.wait a.options.settleDelay])
  | .settled => ({ a with state := .mathTypeset }, p, if p.mathActive then [.awaitMath] else [])
  | .mathTypeset => ({ a with state := .imagesSettled }, p, [.awaitImages])
  | .imagesSettled =>
    let a' := { a with state := .ready }
    let id := a.options.marker
    if id ∈ p.markers then (a', p, [.wait a.options.finalDelay])
    else (a', { p with markers := p.markers ++ [id] }, [.wait a.options.finalDelay, .insertMarker id])
  | .ready => (a, p, [])

def steps : Nat → Agent → Page → Agent × Page × List AgentCall
  | 0, a, p => (a, p, [])
  | n + 1, a, p =>
    let (a, p, calls) := a.step p
    let (a, p, more) := steps n a p
    (a, p, calls ++ more)

/-- Runs an agent that has not begun; any other does nothing. -/
def run (a : Agent) (p : Page) : Agent × Page × List AgentCall :=
  if a.state = .idle then steps 5 a p else (a, p, [])

end Agent

end Coursebook
