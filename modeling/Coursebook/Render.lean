/-
From an authored document to its tree, its HTML and its page.
-/
import Coursebook.Command.Prose
import Coursebook.Document
import Coursebook.Math.Repair
import Coursebook.PageShell
import Coursebook.Render.Writer
import Coursebook.Text.Utf8

namespace Coursebook

/-- A text whose formulas and structure commands are written as markup. Formulas come first, so that
the commands inside them are left alone. -/
def normalizeText (s : Text) : Text := Command.normalize (Math.normalize s)

/-- A rendered document with its statistics. -/
structure Rendering where
  html : Text
  title : Option Text
  stats : Stats
deriving Repr, DecidableEq

def Rendering.size (r : Rendering) : Nat := Text.byteLength r.html

def Rendering.ofNodes (o : RenderOptions) (title : Option Text) (ns : List Node) : Rendering :=
  let r := (o.withStats true).render ns
  ⟨r.1, title, r.2⟩

namespace Document

def toNodes (o : RenderOptions) (d : Document) : List Node := o.sections.sectionize (Markup.parse o.parse (normalizeText d.toText))

def toHtml (o : RenderOptions) (d : Document) : Text := Html.ofDocument o (d.toNodes o)

def toRendering (o : RenderOptions) (d : Document) : Rendering := .ofNodes o d.title? (d.toNodes o)

end Document

/-- A page for HTML that was rendered with some options: the engine for formulas is left out if
nothing needs it, and the title is used if the page has none of its own. -/
def RenderOptions.toPage (o : RenderOptions) (page : PageOptions) (title : Option Text) (html : Text) : Text :=
  let page := { page with
    includeMathEngine := page.includeMathEngine && o.typesetter.needsEngine
    title := page.title.orElse fun _ => title }
  PageShell.wrap page html

def Document.toPage (o : RenderOptions) (page : PageOptions) (d : Document) : Text :=
  o.toPage page d.title? (d.toHtml o)

end Coursebook
