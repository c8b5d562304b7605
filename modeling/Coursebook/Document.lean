/-
Documents as authored: free text, or a record of named blocks. A record is
projected to text, so that both are rendered in one way: every block but
free text becomes a section whose heading starts with the label of its kind.
-/
import Coursebook.Text.Blank

namespace Coursebook

/-- Kinds of educational documents. -/
inductive DocumentKind where
  | lesson
  | exercise
  | lessonPlan
deriving Repr, DecidableEq

/-- A block of a record. -/
inductive Block where
  | introduction (body : Text)
  | definition (term : Option Text) (body : Text)
  | theorem_ (name : Option Text) (statement : Text) (proof : Option Text)
  | formula (name : Option Text) (body : Text)
  | example_ (title : Option Text) (body : Text)
  | exercise (statement : Text) (solution : Option Text)
  | summary (body : Text)
  | alert (body : Text)
  | text (body : Text)
deriving Repr, DecidableEq

/-- A document authored as a record. -/
structure Record where
  title : Option Text
  kind : DocumentKind
  blocks : List Block
deriving Repr, DecidableEq

/-- A document as authored. -/
inductive Document where
  | text (content : Text)
  | structured (record : Record)
deriving Repr, DecidableEq

/-! ## Projection -/

/-- What stands between the label of a heading and its name. -/
def labelSeparator : Text := [' ', ':', ' ']

/-- A part of a projection: the title of the document, the heading of a section, or any other text. -/
inductive Projection.Part where
  | title (text : Text)
  | heading (text : Text)
  | text (text : Text)
deriving Repr, DecidableEq

namespace Projection.Part

/-- How a part is written. -/
def source : Part → Text
  | title t => ['#', ' '] ++ t
  | heading t => "\\section\x7b".toList ++ t ++ ['}']
  | text t => t

def heading? : Part → Option Text
  | heading t => some t
  | _ => none

end Projection.Part

/-- A projection under way: its parts so far, and the number of exercises among them. It is a
natural number, so it goes on where a count of 32 bits ends, at 2 ^ 32 exercises. -/
structure Projection where
  parts : List Projection.Part
  exercises : Nat
deriving Repr, DecidableEq

namespace Projection

def empty : Projection := ⟨[], 0⟩

/-- The parts of a text: none if it is blank, else the text without white space at its ends. -/
def bodyParts (body : Text) : List Part :=
  match Text.trim body with
  | [] => []
  | b => [.text b]

/-- A section heading: the label, and the name behind it if there is one. -/
def titled (label : Text) (name : Option Text) : Text :=
  match (name.map Text.trim).getD [] with
  | [] => label
  | n => label ++ labelSeparator ++ n

def sectionParts (label : Text) (name : Option Text) (body : Text) : List Part :=
  .heading (titled label name) :: bodyParts body

/-- The parts of a block; `number` is that of the block if it is an exercise. -/
def blockParts (number : Nat) : Block → List Part
  | .introduction body => sectionParts "Introduction".toList none body
  | .definition term body => sectionParts "Définition".toList term body
  | .theorem_ name statement proof =>
    sectionParts "Théorème".toList name statement
      ++ (proof.map fun p => .text ("\\textit\x7bDémonstration.\x7d ".toList ++ Text.trim p)).toList
  | .formula name body => sectionParts "Formule".toList name body
  | .example_ title body => sectionParts "Exemple".toList title body
  | .exercise statement solution =>
    sectionParts ("Exercice ".toList ++ Text.ofNat number) none statement
      ++ (solution.map fun s =>
        .text ("\\begin\x7bsolution\x7d\n".toList ++ Text.trim s ++ "\n\\end\x7bsolution\x7d".toList)).toList
  | .summary body => sectionParts "Résumé".toList none body
  | .alert body => sectionParts "Attention".toList none body
  | .text body => bodyParts body

def addTitle (p : Projection) (title : Text) : Projection := { p with parts := p.parts ++ [.title (Text.trim title)] }

/-- Adds a block; exercises are numbered in order. -/
def addBlock (p : Projection) (b : Block) : Projection :=
  let exercises := match b with
    | .exercise _ _ => p.exercises + 1
    | _ => p.exercises
  ⟨p.parts ++ blockParts exercises b, exercises⟩

/-- The headings of the sections, in order. -/
def headings (p : Projection) : List Text := p.parts.filterMap Part.heading?

/-- The text of a projection: its parts as blocks of their own. -/
def finish (p : Projection) : Text := Text.join ['\n', '\n'] (p.parts.map Part.source)

end Projection

def Record.projection (r : Record) : Projection :=
  r.blocks.foldl Projection.addBlock (r.title.elim Projection.empty Projection.empty.addTitle)

def Record.text (r : Record) : Text := r.projection.finish

namespace Document

def toText : Document → Text
  | .text content => content
  | .structured r => r.text

/-- The title of a document; free text carries none. -/
def title? : Document → Option Text
  | .text _ => none
  | .structured r => r.title

end Document

end Coursebook
