/-
Sections: a heading and what follows it, up to the next heading that opens
a section. What a section is about is read from the words of its heading.

Sections do not nest. One that is there already stays as it is and ends the
section in front of it, so grouping a grouped sequence changes nothing.
-/
import Coursebook.Document
import Coursebook.Node
import Coursebook.Text.Case
import Coursebook.Text.Normal

namespace Coursebook

/-! ## Categories -/

namespace Category

/-- Words in lower case and the category that each names, in the order in which they count. -/
def keywords : List (Text × Category) :=
  [("introduction", introduction), ("définition", definition), ("definition", definition),
    ("vocabulaire", definition), ("théorème", theorem_), ("theorem", theorem_), ("propriété", theorem_),
    ("property", theorem_), ("lemme", theorem_), ("lemma", theorem_), ("corollaire", theorem_),
    ("corollary", theorem_), ("formule", formula), ("formula", formula), ("exemple", example_),
    ("example", example_), ("exercice", exercise), ("exercise", exercise), ("résumé", summary),
    ("summary", summary), ("à retenir", summary), ("conclusion", summary), ("attention", alert),
    ("remarque", alert), ("warning", alert)].map fun (word, c) => (String.toList word, c)

/-- The category of the first keyword that occurs in a text. -/
def ofWords (s : Text) : Category :=
  let s := Text.lower s
  ((keywords.find? fun (word, _) => Text.contains word s).map (·.2)).getD generic

/-- The category of a heading. In a heading made of a label and a name the label decides, if it names
a category. -/
def ofHeading (s : Text) : Category :=
  let s := Text.normalize s
  match Text.cut? labelSeparator s with
  | some (label, _) => match ofWords label with
    | generic => ofWords s
    | c => c
  | none => ofWords s

end Category

/-! ## Grouping -/

/-- Whether headings are grouped into sections, and which levels of heading open one. -/
structure SectionOptions where
  enabled : Bool := true
  levels : List Nat := [2, 3]
deriving Repr, DecidableEq

namespace SectionOptions

def disabled : SectionOptions := { enabled := false }

/-- Whether a node is a heading that opens a section. -/
def opens (o : SectionOptions) (n : Node) : Bool := n.headingLevel?.any fun level => level ∈ o.levels

def ends (o : SectionOptions) (n : Node) : Bool := o.opens n || n.isSection

/-- Groups each heading that opens a section with what follows it. -/
def group (o : SectionOptions) : List Node → List Node
  | [] => []
  | n :: ns =>
    if o.opens n then
      .section_ (.ofHeading n.plainText) (n :: ns.takeWhile (!o.ends ·)) :: group o (ns.dropWhile (!o.ends ·))
    else n :: group o ns
termination_by ns => ns.length
decreasing_by
  · exact Nat.lt_succ_of_le (List.dropWhile_sublist _).length_le
  · exact Nat.lt_succ_self _

/-- Groups a sequence of nodes into sections, unless that is disabled. -/
def sectionize (o : SectionOptions) (ns : List Node) : List Node := if o.enabled then o.group ns else ns

end SectionOptions

end Coursebook
