/-
The command line program: files, arguments and streams of the system in
front of the commands.
-/
import Coursebook.Cli.Run

namespace Coursebook.Cli

def fileErrorOf : IO.Error → FileError
  | .noFileOrDirectory .. => .notFound
  | .inappropriateType .. => .notDirectory
  | .alreadyExists .. => .alreadyExists
  | e => .other e.toString.toList

/-- Answers with the error of the system in place of an exception. -/
def attempt {α : Type} (act : IO α) : IO (Except FileError α) := do
  match ← act.toBaseIO with
  | .ok a => return .ok a
  | .error e => return .error (fileErrorOf e)

def systemFiles : FileSystem IO where
  read path := do
    match ← attempt (IO.FS.readBinFile (String.ofList path)) with
    | .error e => return .error e
    | .ok bytes => return match String.fromUTF8? bytes with
      | some s => .ok s.toList
      | none => .error .notText
  list path := attempt do
    let entries ← ((← IO.currentDir) / String.ofList path).readDir
    let files ← entries.toList.filterM fun e => do return !(← e.path.isDir)
    return files.map (·.fileName.toList)
  write path content := attempt (IO.FS.writeFile (String.ofList path) (String.ofList content))
  makeDirectory path := attempt (IO.FS.createDirAll (String.ofList path))

/-- The variables of the environment that the program reads. -/
def variableNames : List Text :=
  (programOptions ++ commandSpecs.flatMap CommandSpec.options).filterMap OptionSpec.setBy

end Coursebook.Cli

open Coursebook Coursebook.Cli

/-- Runs the program: what it prints, what it complains about, and its code. -/
def main (args : List String) : IO UInt32 := do
  let environment ← variableNames.filterMapM fun name => do
    return (← IO.getEnv (String.ofList name)).map fun value => (name, value.toList)
  let outcome ← runArguments systemFiles (fun name => environment.lookup name) (args.map String.toList)
  (← IO.getStdout).putStr (String.ofList outcome.output)
  for complaint in outcome.complaints do
    (← IO.getStderr).putStrLn (String.ofList complaint.line)
  return UInt32.ofNat outcome.code
