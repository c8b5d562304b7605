/-
Running the program's commands over a file system of any kind: what they
print, what they complain about, and the code that the program ends with.
-/
import Coursebook.Cli.Arguments
import Coursebook.Configuration
import Coursebook.Document.File
import Coursebook.Json.Write

namespace Coursebook.Cli

/-! ## Outcomes -/

/-- What the program complains about. -/
inductive Complaint where
  | file (error : FileError)
  | configuration (path : Text)
  | failure (cause : Failure)
  | document (path : Text) (cause : Failure)
  | batch (failed total : Nat)
deriving Repr, DecidableEq

def Complaint.line : Complaint → Text
  | file e => "Error: ".toList ++ e.message
  | configuration path => "Error: Invalid config ".toList ++ path ++ ": the file holds no configuration record".toList
  | failure f => "Error: ".toList ++ f.message
  | document path f => "  ✗ ".toList ++ path ++ ": ".toList ++ f.message
  | batch failed total =>
    "Error: ".toList ++ Text.ofNat failed ++ " of ".toList ++ Text.ofNat total ++ " documents failed to render".toList

/-- How the program ends: its code, what it prints, and what it complains about. -/
structure Outcome where
  code : Nat
  output : Text
  complaints : List Complaint
deriving Repr, DecidableEq

namespace Outcome

def done (output : Text) : Outcome := ⟨0, output, []⟩

def failed (c : Complaint) : Outcome := ⟨1, [], [c]⟩

end Outcome

def lines (ls : List Text) : Text := ls.flatMap (· ++ ['\n'])

/-! ## Texts that the program prints -/

def versionLine : Text := "lessonmark 0.3.2".toList

def versionText : Text := lines [versionLine, "Educational document rendering tool".toList, [], "License: MIT".toList]

def usageText : Text :=
  lines ["Usage: lessonmark <COMMAND> <FILE>".toList, "       lessonmark --help for more information".toList]

def reportText (input : Text) (r : Integrity.Report) : Text :=
  let verdict :=
    if r.rejects then "REJECT: regenerate this content".toList
    else if r.isClean then "OK".toList
    else "OK with warnings".toList
  lines (["Validation Report".toList, List.replicate 40 '─', "File: ".toList ++ input,
      "Findings: ".toList ++ Text.ofNat r.findings.length]
    ++ r.findings.map (fun f => "  • ".toList ++ f.kind.label ++ ": ".toList ++ f.detail) ++ [[], verdict])

/-! ## Commands on one file -/

section

variable {m : Type → Type} [Monad m] (fs : FileSystem m)

def deliver (output : Option Text) (content : Text) : m Outcome := do
  match output with
  | none => return .done (lines [content])
  | some path =>
    match ← fs.write path content with
    | .ok () => return .done (lines ["Saved to ".toList ++ path])
    | .error e => return .failed (.file e)

def renderFile (o : RenderOptions) (page : Option PageOptions) (input : Text) : m (Except Failure Text) := do
  return (← Document.load fs input).map fun d => match page with
    | some page => d.toPage o page
    | none => d.toHtml o

/-- Goes on with a text that may have failed to come about. -/
def deliverResult (output : Option Text) : Except Failure Text → m Outcome
  | .ok content => deliver fs output content
  | .error e => return .failed (.failure e)

def runTree (o : RenderOptions) (input : Text) (output : Option Text) (compact : Bool) : m Outcome := do
  let document ← Document.load fs input
  deliverResult fs output (document.map fun d =>
    let tree := Node.listToJson (d.toNodes o)
    if compact then tree.compact else tree.pretty 0)

def runValidate (o : Integrity.Options) (input : Text) (json : Bool) : m Outcome := do
  match ← fs.read input with
  | .error e => return .failed (.file e)
  | .ok content =>
    let r := Integrity.check o content
    return ⟨if r.rejects then 2 else 0, if json then lines [r.toJson.pretty 0] else reportText input r, []⟩

def runSanitize (input : Text) (output : Option Text) : m Outcome := do
  match ← fs.read input with
  | .error e => return .failed (.file e)
  | .ok content => deliver fs output (Integrity.sanitize content)

/-! ## Batches -/

def isDocument (name : Text) : Bool :=
  match (Path.cutExtension name).2 with
  | some e => ["tex", "txt", "json"].any (·.toList = e)
  | none => false

/-- Whether a name comes before another, or is the same. -/
def precedes : Text → Text → Bool
  | [], _ => true
  | _, [] => false
  | a :: s, b :: t => a < b || (a = b && precedes s t)

/-- The documents among the files of a directory, in order. -/
def documentsOf (names : List Text) : List Text := (names.filter isDocument).mergeSort precedes

/-- The file that a document of a batch is written to. -/
def batchTarget (directory name : Text) : Text := Path.join directory ((Path.cutExtension name).1 ++ ".html".toList)

/-- Renders a document of a batch into its file: the complaint, if that fails. -/
def runOfBatch (o : RenderOptions) (page : Option PageOptions) (input directory name : Text) : m (Option Complaint) := do
  let path := Path.join input name
  match ← renderFile fs o page path with
  | .error e => return some (.document path e)
  | .ok html =>
    match ← fs.write (batchTarget directory name) html with
    | .ok () => return none
    | .error e => return some (.document path e.failure)

def runBatch (o : RenderOptions) (page : Option PageOptions) (input : Text) (output : Option Text) : m Outcome := do
  match ← fs.list input with
  | .error e => return .failed (.file e)
  | .ok names =>
    let names := documentsOf names
    let directory := output.getD (Path.join input "html".toList)
    match ← fs.makeDirectory directory with
    | .error e => return .failed (.file e)
    | .ok () =>
      let complaints := (← names.mapM (runOfBatch fs o page input directory)).filterMap id
      let total := names.length
      let done := "Done! ".toList ++ Text.ofNat (total - complaints.length) ++ " of ".toList ++ Text.ofNat total
        ++ " documents rendered into ".toList ++ directory
      if complaints = [] then return .done (lines [[], done])
      else return ⟨1, lines [[], done], complaints ++ [.batch complaints.length total]⟩

/-! ## The program -/

/-- Loads a configuration; without a path it is the default. -/
def loadConfiguration (path : Option Text) : m (Except Complaint Configuration) := do
  match path with
  | none => return .ok {}
  | some path =>
    match ← fs.read path with
    | .error e => return .error (.file e)
    | .ok content =>
      match Configuration.read? content with
      | some c => return .ok c
      | none => return .error (.configuration path)

/-- The options for rendering: those of the configuration, and what the invocation sets itself. -/
def Invocation.renderOptions (i : Invocation) (c : Configuration) : RenderOptions :=
  let o := { c.render with imagePrefix := i.imagePrefix.getD c.render.imagePrefix }
  i.math.elim o o.withMath

def run (i : Invocation) : m Outcome := do
  match ← loadConfiguration fs i.config with
  | .error e => return .failed e
  | .ok c =>
    let o := i.renderOptions c
    let pageOf (page : Bool) : Option PageOptions := if page then some c.page else none
    match i.command with
    | none => return .done usageText
    | some .version => return .done versionText
    | some (.render input output page noSections) =>
      let o := if noSections then { o with sections := .disabled } else o
      deliverResult fs output (← renderFile fs o (pageOf page) input)
    | some (.tree input output compact) => runTree fs o input output compact
    | some (.validate input json preset) => runValidate fs (preset.elim c.integrity .ofPreset) input json
    | some (.sanitize input output) => runSanitize fs input output
    | some (.batch input output page) => runBatch fs o (pageOf page) input output

/-- Runs the program with its arguments. Arguments at fault end it with the code two. -/
def runArguments (env : Text → Option Text) (args : List Text) : m Outcome := do
  match parse env args with
  | .ok i => run fs i
  | .error .version => return .done (lines [versionLine])
  | .error .help => return .done usageText
  | .error (.fault _) => return ⟨2, [], []⟩

end

end Coursebook.Cli
