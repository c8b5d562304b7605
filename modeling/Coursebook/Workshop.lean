/-
The library under one roof: options for rendering, pages and checks, and a
document that has been read with them.
-/
import Coursebook.Failure
import Coursebook.Render

namespace Coursebook

/-- A document that has been read, with the options for its output. -/
structure Edition where
  nodes : List Node
  title : Option Text
  render : RenderOptions
  page : PageOptions

namespace Edition

def toHtml (r : Edition) : Text := Html.ofDocument r.render r.nodes

def toRendering (r : Edition) : Rendering := .ofNodes r.render r.title r.nodes

def toPage (r : Edition) : Text := r.render.toPage r.page r.title r.toHtml

def plainText (r : Edition) : Text := Node.plainTextAll r.nodes

def sections (r : Edition) : List Node := r.nodes.filter Node.isSection

end Edition

/-- Options for all that is done with documents. -/
structure Workshop where
  render : RenderOptions := {}
  page : PageOptions := {}
  integrity : Integrity.Options := {}

namespace Workshop

def read (w : Workshop) (d : Document) : Edition := ⟨d.toNodes w.render, d.title?, w.render, w.page⟩

/-- Reads a generated text, unless it has to be refused. -/
def accept (w : Workshop) (s : Text) : Except Failure Edition :=
  match Integrity.accept w.integrity s with
  | .ok s => .ok (w.read (.text s))
  | .error r => .error (.rejected r)

end Workshop

end Coursebook
