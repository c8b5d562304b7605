/-
Emphasis: which delimiters belong together.

Runs of delimiters that can open emphasis wait on a stack. A run that can
close looks for the innermost that it fits, and what stands between the two
becomes emphasis, strong emphasis for every two delimiters. Runs in between
have found no partner and are text.
-/
import Coursebook.Markup.Event
import Coursebook.Markup.Inline

namespace Coursebook.Markup

/-- A run of delimiters: its character, the length that it had, and whether it can both open and
close. -/
structure Delimiter where
  char : Char
  length : Nat
  both : Bool

/-- Whether an opening and a closing run fit together. If one of them could do both, their lengths
may not add up to a multiple of three, unless both are one. Tildes fit runs of their length only. -/
def Delimiter.fits (opening closing : Delimiter) : Bool :=
  opening.char = closing.char && (closing.char ≠ '~' || opening.length = closing.length)
    && ((!opening.both && !closing.both) || (opening.length + closing.length) % 3 ≠ 0 || closing.length % 3 = 0)

/-- An open run: how many of its delimiters are left, and the events since it, latest first. -/
structure OpenRun where
  delimiter : Delimiter
  count : Nat
  events : List Event

/-- The events of an open run that stays without a partner, latest first. -/
def OpenRun.abandon (r : OpenRun) : List Event := r.events ++ List.replicate r.count (.text [r.delimiter.char])

/-- The emphasis of a line under construction: the open runs, innermost first; the events in front
of them, latest first; and how many of the outermost runs tildes can no longer reach. -/
structure Emphasis where
  runs : List OpenRun
  events : List Event
  tildeFloor : Nat

namespace Emphasis

def empty : Emphasis := ⟨[], [], 0⟩

def addAll (e : Emphasis) (events : List Event) : Emphasis :=
  match e.runs with
  | [] => { e with events := events ++ e.events }
  | r :: more => { e with runs := { r with events := events ++ r.events } :: more }

def add (e : Emphasis) (event : Event) : Emphasis := e.addAll [event]

def enclose (style : EmphasisStyle) (events : List Event) : List Event := .stop :: events ++ [.start (.emphasis style)]

/-- Encloses events, latest first, in the emphasis of `n` delimiters, two at a time from the inside. -/
def wrap (c : Char) : (n : Nat) → List Event → List Event
  | 0, events => events
  | 1, events => enclose (if c = '~' then .strike else .italic) events
  | n + 2, events => wrap c n (enclose (if c = '~' then .strike else .strong) events)

/-- Cuts the open runs at the innermost that a closing run fits: the runs inside it, itself, and the
runs around it. -/
def findOpening? (closing : Delimiter) : List OpenRun → Option (List OpenRun × OpenRun × List OpenRun)
  | [] => none
  | r :: more =>
    if r.delimiter.fits closing then some ([], r, more)
    else (findOpening? closing more).map fun (inside, found, around) => (r :: inside, found, around)

/-- The open runs that a closing run can reach, and the others. -/
def reachable (e : Emphasis) (c : Char) : List OpenRun × List OpenRun :=
  if c = '~' then e.runs.splitAt (e.runs.length - e.tildeFloor) else (e.runs, [])

/-- Closes emphasis with what is left of a closing run, as often as an open run fits: the number of
delimiters that remain. -/
def close (closing : Delimiter) : (fuel count : Nat) → Emphasis → Nat × Emphasis
  | 0, count, e => (count, e)
  | fuel + 1, count, e =>
    if count = 0 then (0, e)
    else
      let (near, far) := e.reachable closing.char
      match findOpening? closing near with
      | none => (count, if closing.char = '~' then { e with tildeFloor := e.runs.length } else e)
      | some (inside, opening, around) =>
        let around := around ++ far
        let used := min count opening.count
        let events := wrap closing.char used (inside.flatMap OpenRun.abandon ++ opening.events)
        let e := { e with runs := around, tildeFloor := min e.tildeFloor around.length }
        let e := if used < opening.count then
            { e with runs := { opening with count := opening.count - used, events } :: around }
          else e.addAll events
        close closing fuel (count - used) e

def delimiter (e : Emphasis) (c : Char) (length : Nat) (opens closes : Bool) : Emphasis :=
  let d : Delimiter := ⟨c, length, opens && closes⟩
  let (left, e) := if closes then close d (length + 1) length e else (length, e)
  if left = 0 then e
  else if opens then { e with runs := ⟨d, left, []⟩ :: e.runs }
  else e.addAll (List.replicate left (.text [c]))

/-- Gives up all open runs and gives the events, latest first. -/
def finish (e : Emphasis) : List Event := e.runs.flatMap OpenRun.abandon ++ e.events

end Emphasis

/-! ## The events of a line -/

def Inline.isDelimiter : Inline → Bool
  | .delimiter .. => true
  | _ => false

mutual

def Inline.addTo (e : Emphasis) : Inline → Emphasis
  | .text t => e.add (.text t)
  | .code s => e.add (.code s)
  | .math kind s => e.add (.math kind s)
  | .html h => e.add (.inlineHtml h)
  | .softBreak => e.add .softBreak
  | .hardBreak _ => e.add .hardBreak
  | .delimiter c n opens closes => e.delimiter c n opens closes
  | .link url children =>
    e.addAll (.stop :: (Inline.addAllTo (children.any isDelimiter) .empty children).finish ++ [.start (.link url)])
  | .image url children =>
    e.addAll (.stop :: (Inline.addAllTo (children.any isDelimiter) .empty children).finish ++ [.start (.image url)])

/-- Adds the events of pieces. Among delimiters a backslash at the very end is no break. -/
def Inline.addAllTo (delimited : Bool) (e : Emphasis) : List Inline → Emphasis
  | [] => e
  | [.hardBreak true] => e.add (if delimited then .text ['\\'] else .hardBreak)
  | i :: more => Inline.addAllTo delimited (i.addTo e) more

end

def inlineEvents (pieces : List Inline) : List Event :=
  (Inline.addAllTo (pieces.any Inline.isDelimiter) .empty pieces).finish.reverse

end Coursebook.Markup
