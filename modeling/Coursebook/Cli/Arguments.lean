/-
The command line: its options, its commands, and how its arguments are
read.

Options of the program may stand in front of the command or behind it; the
later place counts more. An option that is not given may come from the
environment. Arguments are read from left to right, and the first fault ends
the reading.
-/
import Coursebook.Integrity.Report
import Coursebook.Math.Typesetter

namespace Coursebook.Cli

/-! ## Commands -/

/-- What the program is asked to do. -/
inductive Command where
  | render (input : Text) (output : Option Text) (page noSections : Bool)
  | tree (input : Text) (output : Option Text) (compact : Bool)
  | validate (input : Text) (json : Bool) (preset : Option Integrity.Preset)
  | sanitize (input : Text) (output : Option Text)
  | batch (input : Text) (output : Option Text) (page : Bool)
  | version
deriving Repr, DecidableEq

/-- A command with the options of the program. -/
structure Invocation where
  config : Option Text
  imagePrefix : Option Text
  math : Option MathMode
  command : Option Command
deriving Repr, DecidableEq

/-- Why there is nothing to run: the arguments ask for help or the version, or are at fault. -/
inductive Interruption where
  | help
  | version
  | fault (reason : Text)
deriving Repr, DecidableEq

/-! ## Options -/

/-- What an option takes: nothing, or a value that has to be of some form. -/
inductive OptionValue where
  | none
  | text
  | path
  | oneOf (words : List Text)
deriving Repr, DecidableEq

/-- An option, the letter that may stand for it, and the variable of the environment that may set it. -/
structure OptionSpec where
  name : Text
  letter : Option Char
  value : OptionValue
  setBy : Option Text
deriving Repr, DecidableEq

def longOption (name : String) (value : OptionValue) (setBy : Option String) : OptionSpec :=
  ⟨name.toList, none, value, setBy.map String.toList⟩

def mathNames : List Text := [MathMode.client.name, MathMode.plain.name]

def presetNames : List Text := [Integrity.Preset.lenient.name, Integrity.Preset.standard.name, Integrity.Preset.strict.name]

def programOptions : List OptionSpec :=
  [longOption "config" .path (some "LESSONMARK_CONFIG"), longOption "image-prefix" .text (some "LESSONMARK_IMAGE_PREFIX"),
    longOption "math" (.oneOf mathNames) (some "LESSONMARK_MATH")]

def outputOption : OptionSpec := ⟨"output".toList, some 'o', .path, none⟩

/-- A command's name, its own options, and whether it takes an input. -/
structure CommandSpec where
  name : Text
  options : List OptionSpec
  takesInput : Bool
deriving Repr, DecidableEq

def commandSpecs : List CommandSpec :=
  [⟨"render".toList, [outputOption, longOption "page" .none none, longOption "no-sections" .none none], true⟩,
    ⟨"tree".toList, [outputOption, longOption "compact" .none none], true⟩,
    ⟨"validate".toList,
      [longOption "json" .none none, longOption "preset" (.oneOf presetNames) (some "LESSONMARK_PRESET")], true⟩,
    ⟨"sanitize".toList, [outputOption], true⟩,
    ⟨"batch".toList, [outputOption, longOption "page" .none none], true⟩,
    ⟨"version".toList, [], false⟩]

/-! ## Reading one level -/

/-- What the arguments of one level give: the values of its options, and its inputs, the latest
first. -/
structure Level where
  values : List (Text × Text)
  inputs : List Text
deriving Repr, DecidableEq

namespace Level

def empty : Level := ⟨[], []⟩

def has (l : Level) (name : String) : Bool := l.values.any (·.1 = name.toList)

def get? (l : Level) (name : String) : Option Text := l.values.lookup name.toList

end Level

/-- Whether a value is of the form that an option asks for. -/
def OptionValue.admits : OptionValue → Text → Bool
  | .none, _ => false
  | .text, _ => true
  | .path, s => s ≠ []
  | .oneOf words, s => words.any (· = s)

def faultAt {α : Type} (reason : String) (arg : Text) : Except Interruption α :=
  .error (.fault (reason.toList ++ " '".toList ++ arg ++ ['\'']))

/-- Whether an argument is an option, and so no value of another option. -/
def looksLikeOption (arg : Text) : Bool := Text.startsWith ['-'] arg && arg ≠ ['-']

def setOption (l : Level) (o : OptionSpec) (value : Text) : Except Interruption Level :=
  if l.values.any (·.1 = o.name) then faultAt "option given twice:" o.name
  else if o.value ≠ .none ∧ o.value.admits value = false then faultAt "invalid value" value
  else .ok { l with values := (o.name, value) :: l.values }

/-- Reads the value of an option that is either joined to it or the next argument: the level, and the
arguments that follow. -/
def takeValue (l : Level) (o : OptionSpec) (joined : Option Text) (args : List Text) :
    Except Interruption (Level × List Text) :=
  match joined, args with
  | some value, args => (setOption l o value).map fun l => (l, args)
  | none, value :: args =>
    if looksLikeOption value then faultAt "no value for option" o.name
    else (setOption l o value).map fun l => (l, args)
  | none, [] => faultAt "no value for option" o.name

def readLong (options : List OptionSpec) (l : Level) (arg : Text) (args : List Text) :
    Except Interruption (Level × List Text) :=
  let (name, joined) := match arg.span (· ≠ '=') with
    | (name, _ :: value) => (name, some value)
    | (name, []) => (name, none)
  match options.find? fun o => o.name = name with
  | none =>
    if name = "help".toList ∧ joined = none then .error .help else faultAt "unexpected option" arg
  | some o =>
    if o.value = .none then
      if joined = none then (setOption l o []).map fun l => (l, args) else faultAt "unexpected value in" arg
    else takeValue l o joined args

/-- Reads an option by its letter; what stands behind the letter is its value. -/
def readShort (options : List OptionSpec) (l : Level) (arg : Text) (args : List Text) :
    Except Interruption (Level × List Text) :=
  match arg with
  | [] => .ok (l, args)
  | c :: value =>
    match options.find? fun o => o.letter = some c with
    | none => if c = 'h' then .error .help else faultAt "unexpected option" ['-', c]
    | some o =>
      let joined := match value with
        | [] => none
        | '=' :: value => some value
        | value => some value
      takeValue l o joined args

/-- Reads the arguments of a command: its options, and at most one input. -/
def readCommand (options : List OptionSpec) (takesInput : Bool) :
    (fuel : Nat) → (onlyInputs : Bool) → Level → List Text → Except Interruption Level
  | 0, _, l, _ => .ok l
  | _ + 1, _, l, [] => .ok l
  | fuel + 1, onlyInputs, l, arg :: args =>
    let input : Except Interruption Level :=
      if takesInput = false ∨ l.inputs ≠ [] then faultAt "unexpected argument" arg
      else if arg = [] then faultAt "invalid value" arg
      else readCommand options takesInput fuel onlyInputs { l with inputs := arg :: l.inputs } args
    if onlyInputs then input
    else match arg with
      | ['-', '-'] => readCommand options takesInput fuel true l args
      | '-' :: '-' :: name => do
        let (l, args) ← readLong options l name args
        readCommand options takesInput fuel false l args
      | '-' :: c :: rest => do
        let (l, args) ← readShort options l (c :: rest) args
        readCommand options takesInput fuel false l args
      | _ => input

/-- Reads the arguments in front of the command: the level, and the command with its arguments. -/
def readProgram : (fuel : Nat) → Level → List Text → Except Interruption (Level × Option (CommandSpec × List Text))
  | 0, l, _ => .ok (l, none)
  | _ + 1, l, [] => .ok (l, none)
  | fuel + 1, l, arg :: args =>
    match arg with
    | ['-', '-'] =>
      match args with
      | [] => .ok (l, none)
      | arg :: _ => faultAt "unexpected argument" arg
    | '-' :: '-' :: name =>
      if name = "version".toList then .error .version
      else do
        let (l, args) ← readLong programOptions l name args
        readProgram fuel l args
    | '-' :: c :: rest =>
      if c = 'V' then .error .version
      else do
        let (l, args) ← readShort programOptions l (c :: rest) args
        readProgram fuel l args
    | name =>
      match commandSpecs.find? fun s => s.name = name with
      | some s => .ok (l, some (s, args))
      | none => if name = "help".toList then .error .help else faultAt "unknown command" name

/-! ## The environment -/

/-- The value of an option with the environment, and whether it was given as an argument. -/
def withVariable (env : Text → Option Text) (l : Level) (o : OptionSpec) : Except Interruption (Option (Text × Bool)) :=
  match l.values.lookup o.name with
  | some value => .ok (some (value, true))
  | none =>
    match o.setBy.bind env with
    | some value => if o.value.admits value then .ok (some (value, false)) else faultAt "invalid value" value
    | none => .ok none

/-- The value of an option of the program: behind the command, in front of it, from the environment. -/
def programValue (env : Text → Option Text) (outer : Level) (inner : Option Level) (o : OptionSpec) :
    Except Interruption (Option Text) := do
  let before ← withVariable env outer o
  match inner with
  | none => return before.map (·.1)
  | some inner =>
    let behind ← withVariable env inner o
    match before, behind with
    | some (value, true), some (_, false) => return some value
    | _, some (value, _) => return some value
    | before, none => return before.map (·.1)

/-! ## Invocations -/

def mathOfName (s : Text) : Option MathMode := [MathMode.client, .plain].find? fun m => m.name = s

def presetOfName (s : Text) : Option Integrity.Preset :=
  [Integrity.Preset.lenient, .standard, .strict].find? fun p => p.name = s

def commandOf (env : Text → Option Text) (s : CommandSpec) (l : Level) : Except Interruption Command := do
  let preset ← match s.options.find? fun o => o.name = "preset".toList with
    | some o => withVariable env l o
    | none => pure none
  match s.takesInput, l.inputs with
  | false, _ => return .version
  | true, [] => .error (.fault "the input is missing".toList)
  | true, input :: _ =>
    let output := l.get? "output"
    match String.ofList s.name with
    | "render" => return .render input output (l.has "page") (l.has "no-sections")
    | "tree" => return .tree input output (l.has "compact")
    | "validate" => return .validate input (l.has "json") (preset.bind fun (p, _) => presetOfName p)
    | "sanitize" => return .sanitize input output
    | _ => return .batch input output (l.has "page")

def parse (env : Text → Option Text) (args : List Text) : Except Interruption Invocation := do
  let (outer, command) ← readProgram (args.length + 1) .empty args
  let inner ← command.mapM fun (s, args) => do
    let l ← readCommand (s.options ++ programOptions) s.takesInput (args.length + 1) false .empty args
    return (s, l)
  let values ← programOptions.mapM (programValue env outer (inner.map (·.2)))
  let command ← inner.mapM fun (s, l) => commandOf env s l
  match values with
  | [config, imagePrefix, math] => return ⟨config, imagePrefix, math.bind mathOfName, command⟩
  | _ => .error (.fault "no options".toList)

end Coursebook.Cli
