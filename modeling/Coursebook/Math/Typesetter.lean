/-
How formulas are written in HTML: wrapped for the engine that runs in the
page, or as code without any engine.
-/
import Coursebook.Html
import Coursebook.Text.Blank

namespace Coursebook

/-- Writes formulas, and says whether the page has to load an engine for them. -/
structure Typesetter where
  inline : Text → Text
  display : Text → Text
  needsEngine : Bool := false

namespace Typesetter

def client : Typesetter where
  inline s := Html.element "span" (Html.attr "class" "math math-inline".toList)
    ('\\' :: '(' :: Html.escape (Text.trim s) ++ ['\\', ')'])
  display s := Html.element "div" (Html.attr "class" "math math-display".toList)
    ('\\' :: '[' :: Html.escape (Text.trim s) ++ ['\\', ']'])
  needsEngine := true

def plain : Typesetter where
  inline s := Html.element "code" (Html.attr "class" "math-source".toList) (Html.escape s)
  display s := Html.element "pre" (Html.attr "class" "math-source".toList) (Html.element "code" [] (Html.escape s))

end Typesetter

/-- The typesetters that have a name. -/
inductive MathMode where
  | client
  | plain
deriving Repr, DecidableEq

namespace MathMode

def name : MathMode → Text
  | .client => "client".toList
  | .plain => "plain".toList

def typesetter : MathMode → Typesetter
  | .client => .client
  | .plain => .plain

end MathMode

end Coursebook
