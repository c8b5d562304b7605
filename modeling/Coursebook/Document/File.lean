/-
Documents in files: a record in a JSON file, text in any other.
-/
import Coursebook.Document.Json
import Coursebook.Failure
import Coursebook.File.System

namespace Coursebook

/-- Whether a path names a JSON file, in any case of its letters. -/
def Path.isJson (p : Text) : Bool := (extension? p).any fun e => e.map Text.asciiLower = "json".toList

def FileError.failure (e : FileError) : Failure := .file e.message

namespace Document

def ofFile (path content : Text) : Except Failure Document :=
  if Path.isJson path then
    match Record.read? content with
    | some r => .ok (.structured r)
    | none => .error (.invalidDocument (path ++ ": the file holds no document record".toList))
  else .ok (.text content)

def load {m : Type → Type} [Monad m] (fs : FileSystem m) (path : Text) : m (Except Failure Document) := do
  match ← fs.read path with
  | .ok content => return ofFile path content
  | .error e => return .error e.failure

end Document

end Coursebook
