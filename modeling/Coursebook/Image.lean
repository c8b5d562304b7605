/-
Images: the file, and the sizes declared for it. A size is a number of
pixels or a share of the container; the style of an image never lets it
overflow its container or lose its proportions.
-/
import Coursebook.Decimal.Shortest

namespace Coursebook

/-- A declared size. -/
inductive Length where
  | px (value : Float)
  | percent (value : Float)
deriving Repr, BEq

namespace Length

def pixelsPerCentimetre : Float := 37.8

def value : Length → Float
  | px x => x
  | percent x => x

def unitName : Length → Text
  | px _ => "px".toList
  | percent _ => "percent".toList

/-- A number rounded to hundredths, a half away from zero. Whole numbers have no point and stay
within the 64-bit integers. -/
def numberText (x : Float) : Text :=
  let rounded := (x * 100).round / 100
  if Binary64.isFinite rounded && rounded.floor == rounded then Text.ofInt rounded.toInt64.toInt
  else plainText rounded

def cssText : Length → Text
  | px x => numberText x ++ "px".toList
  | percent x => numberText x ++ ['%']

end Length

/-- An image and its declared sizes. -/
structure Image where
  path : Text
  width : Option Length
  height : Option Length
deriving Repr, BEq

namespace Image

def ofPath (path : Text) : Image := ⟨path, none, none⟩

def declarations (i : Image) : List Text :=
  let width (l : Length) := "width: ".toList ++ l.cssText
  let height (l : Length) := "height: ".toList ++ l.cssText
  (match i.width, i.height with
  | some w, some h => [width w, height h, "object-fit: contain".toList]
  | some w, none => [width w, "height: auto".toList]
  | none, some h => [height h, "width: auto".toList]
  | none, none => ["height: auto".toList]) ++ ["max-width: 100%".toList]

def style (i : Image) : Text := Text.join "; ".toList i.declarations

end Image

end Coursebook
