/-
Image expansion: an image written in a text leaf becomes a node of its own
between the leaves around it. Neighbouring leaves are joined first, so that
an image cut apart by the markup parser is still found.
-/
import Coursebook.Image.Notation
import Coursebook.Node

namespace Coursebook.Node

def leafUnlessEmpty : Text → List Node
  | [] => []
  | t => [text t]

/-- The leaves and images of a text from the position `cursor` on, given the images found in it. -/
def fragments (s : Text) (cursor : Nat) : List (Text.Match ImageSpec) → List Node
  | [] => leafUnlessEmpty (s.drop cursor)
  | m :: ms => leafUnlessEmpty (Text.slice s cursor m.start) ++ image m.value.resolve :: fragments s m.stop ms

/-- Splits a text into leaves and images; a text without images is one leaf. -/
def expandText (s : Text) : List Node :=
  match ImageSpec.scan s with
  | [] => [text s]
  | ms => fragments s 0 ms

def joinLeaves : List Node → List Node
  | [] => []
  | text t :: ns =>
    match joinLeaves ns with
    | text u :: ns => text (t ++ u) :: ns
    | ns => text t :: ns
  | n :: ns => n :: joinLeaves ns

/-- Expands the text leaves of a sequence: the nodes, and the number of images among the new ones. -/
def expandLeaves : List Node → List Node × Nat
  | [] => ([], 0)
  | text t :: ns =>
    let new := expandText t
    let (ns, k) := expandLeaves ns
    (new ++ ns, (new.filter isImage).length + k)
  | n :: ns =>
    let (ns, k) := expandLeaves ns
    (n :: ns, k)

/-- Joins and expands the leaves of a sequence whose other nodes are done: the new sequence, and the
number of new images on top of those counted. -/
def finishLevel : List Node × Nat → List Node × Nat
  | (ns, k) =>
    let (ns, k') := expandLeaves (joinLeaves ns)
    (ns, k + k')

mutual

def expandChildren : Node → Node × Nat
  | heading level cs => let (cs, k) := finishLevel (expandEach cs); (heading level cs, k)
  | paragraph cs => let (cs, k) := finishLevel (expandEach cs); (paragraph cs, k)
  | section_ c cs => let (cs, k) := finishLevel (expandEach cs); (section_ c cs, k)
  | emphasis style cs => let (cs, k) := finishLevel (expandEach cs); (emphasis style cs, k)
  | link url cs => let (cs, k) := finishLevel (expandEach cs); (link url cs, k)
  | blockQuote cs => let (cs, k) := finishLevel (expandEach cs); (blockQuote cs, k)
  | list kind items => let (items, k) := expandItems items; (list kind items, k)
  | n => (n, 0)

def expandEach : List Node → List Node × Nat
  | [] => ([], 0)
  | n :: ns =>
    let (n, k) := expandChildren n
    let (ns, k') := expandEach ns
    (n :: ns, k + k')

def expandItems : List (List Node) → List (List Node) × Nat
  | [] => ([], 0)
  | i :: is =>
    let (i, k) := finishLevel (expandEach i)
    let (is, k') := expandItems is
    (i :: is, k + k')

end

/-- Expands the images in a sequence of nodes: the new sequence, and the number of new images. -/
def expandAll (ns : List Node) : List Node × Nat := finishLevel (expandEach ns)

end Coursebook.Node
