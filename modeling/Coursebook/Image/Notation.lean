/-
Images as they are written: `\figure{path}{options}`, `\image{path}{options}`
and `\includegraphics[options]{path}`. Options are pairs `width=…` and
`height=…` between commas; a lone value is a width.

Both notations are searched on their own. Where two matches overlap, the
one that starts first is kept.
-/
import Coursebook.Image
import Coursebook.Text.Blank

namespace Coursebook

/-- An image as written, before its sizes are read. -/
structure ImageSpec where
  path : Text
  width : Option Text
  height : Option Text
deriving Repr, DecidableEq

namespace ImageSpec

/-! ## Sizes -/

def areaUnits : List Text :=
  ["\\linewidth".toList, "\\textwidth".toList, "\\columnwidth".toList, "\\textheight".toList]

/-- Reads a number: digits, a point with digits behind it, or both. -/
def readNumber (s : Text) : Option Float × Text :=
  let whole := s.takeWhile Text.isAsciiDigit
  let number (ds part : Text) : Option Float :=
    some (Float.ofScientific (Text.digitsValue (ds ++ part)) true part.length)
  match s.dropWhile Text.isAsciiDigit with
  | '.' :: r =>
    match r.takeWhile Text.isAsciiDigit with
    | [] => if whole = [] then (none, s) else (number whole [], '.' :: r)
    | part => (number whole part, r.dropWhile Text.isAsciiDigit)
  | r => if whole = [] then (none, s) else (number whole [], r)

/-- The size that a number and a unit name; a unit of the text area alone is the whole of it. -/
def lengthOf (number : Option Float) (unitName : Text) : Option Length :=
  if areaUnits.any (· = unitName) then some (.percent (number.getD 1 * 100).round)
  else match number with
    | none => none
    | some x =>
      if unitName = [] ∨ unitName = "px".toList then some (.px x)
      else if unitName = "cm".toList then some (.px (x * Length.pixelsPerCentimetre))
      else if unitName = ['%'] then some (.percent x)
      else none

/-- Reads a size: a number, white space and a unit, each of which may be missing. -/
def readLength (s : Text) : Option Length :=
  let (number, r) := readNumber (Text.trim s)
  lengthOf number (Text.trimStart r)

/-- The image of a spec; a size that cannot be read is not declared. -/
def resolve (spec : ImageSpec) : Image := ⟨spec.path, spec.width.bind readLength, spec.height.bind readLength⟩

/-! ## Options -/

/-- Takes one option into a spec: of several sizes of one name the last counts, and a lone value is
the width if there is none yet. Other names and empty values are passed over. -/
def addOption (spec : ImageSpec) (s : Text) : ImageSpec :=
  match Text.cut? ['='] s with
  | none =>
    let value := Text.trim s
    if value ≠ [] ∧ spec.width = none then { spec with width := some value } else spec
  | some (key, value) =>
    let value := Text.trim value
    if value = [] then spec
    else if Text.trim key = "width".toList then { spec with width := some value }
    else if Text.trim key = "height".toList then { spec with height := some value }
    else spec

def ofOptions (path : Text) (options : Option Text) : ImageSpec :=
  ((options.map (Text.splitOn [','])).getD []).foldl addOption ⟨Text.trim path, none, none⟩

/-! ## The two notations -/

/-- Reads a group in braces that holds no braces: what is inside, and what follows it. -/
def plainGroup? : Text → Option (Text × Text)
  | '{' :: s =>
    match s.dropWhile (fun c => c ≠ '{' ∧ c ≠ '}') with
    | '}' :: r => some (s.takeWhile (fun c => c ≠ '{' ∧ c ≠ '}'), r)
    | _ => none
  | _ => none

def brackets? : Text → Option (Text × Text)
  | '[' :: s =>
    match s.dropWhile (· ≠ ']') with
    | ']' :: r => some (s.takeWhile (· ≠ ']'), r)
    | _ => none
  | _ => none

/-- What follows one of the commands whose path stands in front. -/
def pathFirstWord? (s : Text) : Option Text :=
  match Text.after? "\\figure".toList s with
  | some r => some r
  | none => Text.after? "\\image".toList s

/-- Reads an image whose path stands in front of its options. -/
def pathFirst? (s : Text) : Option (ImageSpec × Text) := do
  let (path, r) ← plainGroup? (← pathFirstWord? s)
  if path = [] then none
  match plainGroup? r with
  | some (options, r) => return (ofOptions path (some options), r)
  | none => return (ofOptions path none, r)

/-- Reads an image whose options stand in front of its path. -/
def optionsFirst? (s : Text) : Option (ImageSpec × Text) := do
  let r ← Text.after? "\\includegraphics".toList s
  let (options, r) := match brackets? r with
    | some (options, r) => (some options, r)
    | none => (none, r)
  let (path, r) ← plainGroup? r
  if path = [] then none
  return (ofOptions path options, r)

/-! ## Scanning -/

/-- Drops every match that starts before the end of the last one kept. -/
def dropOverlaps (stop : Nat) : List (Text.Match ImageSpec) → List (Text.Match ImageSpec)
  | [] => []
  | m :: ms => if m.start < stop then dropOverlaps stop ms else m :: dropOverlaps m.stop ms

def scan (s : Text) : List (Text.Match ImageSpec) :=
  dropOverlaps 0 (List.merge (Text.findAll pathFirst? s) (Text.findAll optionsFirst? s) fun a b => a.start ≤ b.start)

end ImageSpec

end Coursebook
