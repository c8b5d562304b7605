/-
Files and directories: what a program asks of them, and a store of files in
memory that answers it.
-/
import Coursebook.File.Path

namespace Coursebook

/-- Why a file cannot be used. -/
inductive FileError where
  | notFound
  | notDirectory
  | isDirectory
  | alreadyExists
  | notText
  | other (reason : Text)
deriving Repr, DecidableEq

def FileError.message : FileError → Text
  | notFound => "No such file or directory (os error 2)".toList
  | alreadyExists => "File exists (os error 17)".toList
  | notDirectory => "Not a directory (os error 20)".toList
  | isDirectory => "Is a directory (os error 21)".toList
  | notText => "stream did not contain valid UTF-8".toList
  | other reason => reason

/-- What a program asks of files: to read a text, to list the names of the files in a directory, to
write a text, and to make a directory with those around it. -/
structure FileSystem (m : Type → Type) where
  read : Text → m (Except FileError Text)
  list : Text → m (Except FileError (List Text))
  write : (path content : Text) → m (Except FileError Unit)
  makeDirectory : Text → m (Except FileError Unit)

/-- Files in memory by the parts of their paths, and directories beside those that the files are in. -/
structure FileStore where
  files : List (List Text × Text)
  directories : List (List Text)
deriving Repr, DecidableEq

namespace FileStore

/-- A place and all those around it, the outermost first. -/
def upTo (p : List Text) : List (List Text) := (List.range (p.length + 1)).map p.take

def ofFiles (files : List (Text × Text)) : FileStore := ⟨files.map fun (p, s) => (Path.resolve p, s), []⟩

def content? (s : FileStore) (p : List Text) : Option Text := s.files.lookup p

def hasDirectory (s : FileStore) (p : List Text) : Bool :=
  p = [] || p ∈ s.directories || s.files.any fun (f, _) => p.isPrefixOf f && p ≠ f

def missing (s : FileStore) (p : List Text) : FileError :=
  if (upTo p).any fun q => (s.content? q).isSome then .notDirectory else .notFound

/-- Whether a path asks for a directory by a slash at its end. -/
def asksDirectory (p : Text) : Bool := p.getLast? = some '/'

def isOutside (p : Text) : Bool := p.head? = some '/'

def read (s : FileStore) (path : Text) : Except FileError Text :=
  let p := Path.resolve path
  if isOutside path then .error .notFound
  else match s.content? p with
    | some content => if asksDirectory path then .error .notDirectory else .ok content
    | none => .error (if s.hasDirectory p then .isDirectory else s.missing p)

def list (s : FileStore) (path : Text) : Except FileError (List Text) :=
  let p := Path.resolve path
  if isOutside path then .error .notFound
  else if s.hasDirectory p then .ok (s.files.filterMap fun (f, _) =>
    match f.reverse with
    | name :: parents => if parents.reverse = p then some name else none
    | [] => none)
  else .error (s.missing p)

def write (s : FileStore) (path content : Text) : Except FileError FileStore :=
  let p := Path.resolve path
  if isOutside path then .error .notFound
  else if s.hasDirectory p then .error .isDirectory
  else if !s.hasDirectory p.dropLast then .error (s.missing p.dropLast)
  else if asksDirectory path then .error (if (s.content? p).isSome then .notDirectory else .isDirectory)
  else .ok { s with files := (p, content) :: s.files.filter fun (f, _) => f ≠ p }

def makeDirectory (s : FileStore) (path : Text) : Except FileError FileStore :=
  let p := Path.resolve path
  if isOutside path then .error .notFound
  else if s.hasDirectory p then .ok s
  else if (s.content? p).isSome then .error .alreadyExists
  else if (upTo p).any fun q => (s.content? q).isSome then .error .notDirectory
  else .ok { s with directories := upTo p ++ s.directories }

def updating (f : FileStore → Except FileError FileStore) : StateM FileStore (Except FileError Unit) := fun s =>
  match f s with
  | .ok s' => (.ok (), s')
  | .error e => (.error e, s)

def system : FileSystem (StateM FileStore) where
  read path s := (s.read path, s)
  list path s := (s.list path, s)
  write path content := updating fun s => s.write path content
  makeDirectory path := updating fun s => s.makeDirectory path

end FileStore

end Coursebook
