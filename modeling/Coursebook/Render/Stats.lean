/-
Statistics of a document tree.
-/
import Coursebook.Node
import Coursebook.Text.Blank

namespace Coursebook

/-- What a document tree holds: its sections, and how many there are of each category in the order in
which the categories first appear; headings, paragraphs, items, images and formulas; and the words of
its text leaves. -/
structure Stats where
  sections : Nat := 0
  categories : List (Category × Nat) := []
  headings : Nat := 0
  paragraphs : Nat := 0
  items : Nat := 0
  images : Nat := 0
  inlineMath : Nat := 0
  displayMath : Nat := 0
  words : Nat := 0
deriving Repr, DecidableEq

namespace Stats

def countCategory (c : Category) : List (Category × Nat) → List (Category × Nat)
  | [] => [(c, 1)]
  | (d, n) :: more => if d = c then (d, n + 1) :: more else (d, n) :: countCategory c more

def sectionsOf (s : Stats) (c : Category) : Nat := (s.categories.lookup c).getD 0

/-- Counts a node itself, without what is in it. -/
def countNode (s : Stats) : Node → Stats
  | .section_ c _ => { s with sections := s.sections + 1, categories := countCategory c s.categories }
  | .heading _ _ => { s with headings := s.headings + 1 }
  | .paragraph _ => { s with paragraphs := s.paragraphs + 1 }
  | .list _ items => { s with items := s.items + items.length }
  | .image _ => { s with images := s.images + 1 }
  | .math .inline _ => { s with inlineMath := s.inlineMath + 1 }
  | .math .display _ => { s with displayMath := s.displayMath + 1 }
  | .text t => { s with words := s.words + (Text.words t).length }
  | _ => s

end Stats

end Coursebook
