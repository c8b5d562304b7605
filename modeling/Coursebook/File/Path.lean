/-
Names of files: the parts of a path between slashes, and the extension of a
name. A point at the head of a name starts no extension.
-/
import Coursebook.Text.Basic

namespace Coursebook.Path

/-- The parts of a path. Empty parts and single points lead nowhere. -/
def parts (p : Text) : List Text := (Text.splitOn ['/'] p).filter fun s => s ≠ [] ∧ s ≠ ['.']

/-- The parts of a path with the steps upwards taken. -/
def resolve (p : Text) : List Text :=
  ((parts p).foldl (fun ps s => if s = ['.', '.'] then ps.tail else s :: ps) []).reverse

/-- The name of a file: the last part of its path, unless that leads upwards. -/
def fileName (p : Text) : Text :=
  match (parts p).getLast? with
  | some s => if s = ['.', '.'] then [] else s
  | none => []

/-- A name cut at its last point; a name without an extension has no second part. -/
def cutExtension (name : Text) : Text × Option Text :=
  match name.reverse.span (· ≠ '.') with
  | (extension, '.' :: stem) => if stem = [] then (name, none) else (stem.reverse, some extension.reverse)
  | _ => (name, none)

def extension? (p : Text) : Option Text := (cutExtension (fileName p)).2

def stem (p : Text) : Text := (cutExtension (fileName p)).1

def join (directory name : Text) : Text :=
  if directory = [] ∨ directory.getLast? = some '/' then directory ++ name else directory ++ '/' :: name

end Coursebook.Path
