/-
Environments: `\begin{name} … \end{name}`. An environment ends at the
closing tag that leaves as many closed as opened, counting only the tags of
its own name.
-/
import Coursebook.Text.Basic

namespace Coursebook.Environment

def beginMark : Text := ['\\', 'b', 'e', 'g', 'i', 'n', '{']

def endMark : Text := ['\\', 'e', 'n', 'd', '{']

def openTag (name : Text) : Text := beginMark ++ name ++ ['}']

def closeTag (name : Text) : Text := endMark ++ name ++ ['}']

theorem openTag_length_pos (name : Text) : 0 < (openTag name).length := by simp [openTag, beginMark]

theorem closeTag_length_pos (name : Text) : 0 < (closeTag name).length := by simp [closeTag, endMark]

/-- Cuts a text around the closing tag that ends `depth` enclosed environments and the one around
them: the body, and what follows the tag. -/
def cutBody? (name : Text) (depth : Nat) : Text → Option (Text × Text)
  | [] => none
  | c :: s =>
    match _h : Text.after? (closeTag name) (c :: s) with
    | some r =>
      match depth with
      | 0 => some ([], r)
      | depth + 1 => (cutBody? name depth r).map fun (body, after) => (closeTag name ++ body, after)
    | none =>
      match _g : Text.after? (openTag name) (c :: s) with
      | some r => (cutBody? name (depth + 1) r).map fun (body, after) => (openTag name ++ body, after)
      | none => (cutBody? name depth s).map fun (body, after) => (c :: body, after)
termination_by s => s.length
decreasing_by
  · have := Text.after?_length _h; have := closeTag_length_pos name; omega
  · have := Text.after?_length _g; have := openTag_length_pos name; omega
  · simp

/-- Cuts a text that starts behind an opening tag around the closing tag that matches it. -/
def cut? (name s : Text) : Option (Text × Text) := cutBody? name 0 s

/-- Reads an environment at the head of a text: its name, its body, and what follows it. -/
def read? (s : Text) : Option (Text × Text × Text) := do
  let s ← Text.after? beginMark s
  let (name, s) ← Text.cut? ['}'] s
  let (body, r) ← cut? name s
  return (name, body, r)

end Coursebook.Environment
