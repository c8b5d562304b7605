/-
Printing a page through a browser. A session loads its target, looks for the
marker until it is there or the time is up, prints the page in either case,
and closes it whatever happened.

The browser is given by what it does: how long each call takes and how it
ends. Time is counted in milliseconds.
-/
import Coursebook.Capture.Agent
import Coursebook.Failure

namespace Coursebook.Capture

/-! ## Requests -/

/-- What to load. -/
inductive Target where
  | url (address : Text)
  | html (page : Text)
deriving Repr, DecidableEq

/-- The size of the paper. -/
inductive PageSize where
  | a4
  | letter
  | custom (width height : Float)

def PageSize.dimensions : PageSize → Float × Float
  | a4 => (210.0, 297.0)
  | letter => (215.9, 279.4)
  | custom width height => (width, height)

/-- Margins in millimetres. -/
structure Margins where
  top : Float := 0.0
  right : Float := 0.0
  bottom : Float := 0.0
  left : Float := 0.0

/-- How to print. -/
structure PrintRequest where
  pageSize : PageSize := .a4
  margins : Margins := {}
  background : Bool := true

/-- How long to wait for which marker. -/
structure Options where
  timeout : Nat := 15000
  pollInterval : Nat := 250
  marker : Text := defaultMarker
deriving Repr, DecidableEq

namespace Options

def interval (o : Options) : Nat := max 1 o.pollInterval

/-- Sets the time between two looks for the marker from microseconds. -/
def withIntervalMicros (o : Options) (micros : Nat) : Options := { o with pollInterval := max 1 (micros / 1000) }

end Options

/-! ## The browser -/

/-- A look for the marker: how long it takes, and its answer. -/
structure Probe where
  duration : Nat
  answer : Except Failure Bool

/-- What the browser does for one page. `probe` is given how many looks there were before and when
the look begins, counted from the end of the navigation. -/
structure Browser where
  opening : Except Failure Unit
  navigation : Except Failure Unit
  navigationTime : Nat
  probe : (index start : Nat) → Probe
  printing : Except Failure Text
  closing : Except Failure Unit

/-- What a session asks of a page. -/
inductive Call where
  | navigate (target : Target)
  | probe (marker : Text)
  | print (request : PrintRequest)
  | close

/-- The calls of a session, each with the time since the page was opened. -/
abbrev Trace := List (Nat × Call)

/-! ## Waiting -/

/-- How a wait ended. -/
inductive Readiness where
  | ready
  | timedOut
deriving Repr, DecidableEq

/-- A wait: how it ended, how long it took, and when each look began. -/
structure Wait where
  readiness : Readiness
  waited : Nat
  looks : List Nat

/-- Looks for the marker from a time on. A look that ends when the time is up still counts, and one
that would take longer is given up. -/
def look (o : Options) (probe : (index start : Nat) → Probe) : (fuel index now : Nat) → Wait
  | 0, _, _ => ⟨.timedOut, o.timeout, []⟩
  | fuel + 1, index, now =>
    if o.timeout < now then ⟨.timedOut, o.timeout, []⟩
    else
      let p := probe index now
      let done := now + p.duration
      if o.timeout < done then ⟨.timedOut, o.timeout, [now]⟩
      else match p.answer with
        | .ok true => ⟨.ready, done, [now]⟩
        | _ =>
          let rest := look o probe fuel (index + 1) (done + o.interval)
          { rest with looks := now :: rest.looks }

/-- Waits for the marker. Every look moves the time on, so there are not more of them than there are
milliseconds, and one. -/
def wait (o : Options) (b : Browser) : Wait := look o b.probe (o.timeout + 1) 0 0

/-! ## Sessions -/

/-- What a session gives: what was printed, how the wait for the marker ended and how long it took,
and what should be known about it. -/
structure Outcome where
  printed : Text
  readiness : Readiness
  waited : Nat
  warnings : List Text

def timeoutWarning (o : Options) : Text :=
  "readiness marker '".toList ++ o.marker ++ "' not seen within ".toList ++ Text.ofNat o.timeout
    ++ " ms; capturing anyway".toList

/-- The result of printing; a page without content is a failure. -/
def printed? (b : Browser) : Except Failure Text :=
  match b.printing with
  | .error e => .error (.capture ("print failed: ".toList ++ e.message))
  | .ok [] => .error (.capture "browser returned an empty PDF".toList)
  | .ok content => .ok content

/-- Loads a target, waits and prints: the calls so far, when they ended, and the result. -/
def attempt (o : Options) (b : Browser) (target : Target) (request : PrintRequest) : Trace × Nat × Except Failure Outcome :=
  let loaded := b.navigationTime
  match b.navigation with
  | .error e => ([(0, .navigate target)], loaded, .error e)
  | .ok () =>
    let w := wait o b
    let stop := loaded + w.waited
    let warnings := if w.readiness = .timedOut then [timeoutWarning o] else []
    let trace := (0, .navigate target) :: w.looks.map (fun t => (loaded + t, .probe o.marker)) ++ [(stop, .print request)]
    (trace, stop, (printed? b).map fun content => ⟨content, w.readiness, w.waited, warnings⟩)

/-- Captures a target: the calls that were made, and the result. A page that cannot be closed is no
failure. -/
def run (o : Options) (b : Browser) (target : Target) (request : PrintRequest) : Trace × Except Failure Outcome :=
  match b.opening with
  | .error e => ([], .error e)
  | .ok () =>
    let (trace, stop, result) := attempt o b target request
    (trace ++ [(stop, .close)], result)

end Coursebook.Capture
