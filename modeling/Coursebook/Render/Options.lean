/-
How a document is rendered.
-/
import Coursebook.Markup
import Coursebook.Math.Typesetter
import Coursebook.Section

namespace Coursebook

/-- How a document is rendered: what stands in front of the paths of images; the deepest level of
heading; how markup is read and sections are made; how formulas are written, unless a typesetter of
one's own is given; and whether statistics are kept. -/
structure RenderOptions where
  imagePrefix : Text := []
  maxHeadingLevel : Nat := 6
  parse : ParseOptions := {}
  sections : SectionOptions := {}
  math : MathMode := .client
  ownTypesetter : Option Typesetter := none
  collectStats : Bool := false

namespace RenderOptions

def typesetter (o : RenderOptions) : Typesetter := o.ownTypesetter.getD o.math.typesetter

/-- Sets the deepest level of heading, from one to six. -/
def withMaxHeadingLevel (o : RenderOptions) (level : Nat) : RenderOptions :=
  { o with maxHeadingLevel := max 1 (min level 6) }

/-- Chooses a mode for formulas in place of any other typesetter. -/
def withMath (o : RenderOptions) (mode : MathMode) : RenderOptions := { o with math := mode, ownTypesetter := none }

def withStats (o : RenderOptions) (keep : Bool) : RenderOptions := { o with collectStats := keep }

def headingLevel (o : RenderOptions) (level : Nat) : Nat := max 1 (min level (max 1 o.maxHeadingLevel))

end RenderOptions

end Coursebook
