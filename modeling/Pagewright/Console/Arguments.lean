/-
The arguments of the command line. Switches start with a dash; one that takes a value has it in the next argument,
after an equals sign, or, for a switch of one letter, in the rest of its argument. Of a switch that is given twice the
last counts. Two dashes end the switches.
-/
import Pagewright.Files.Path
import Pagewright.Number.Numeral

namespace Pagewright.Console

open Files (Path)

/-- a switch: its name, its letter, and whether it takes a value -/
structure Switch where
  name : String
  letter : Option Char
  takesValue : Bool
  deriving DecidableEq, Repr

/-- switches in the order they were given, with their values -/
abbrev Settings := List (String × String)

def lastValue (s : Settings) (name : String) : Option String :=
  ((s.filter fun p => p.1 = name).getLast?).map (·.2)

def isGiven (s : Settings) (name : String) : Bool := s.any fun p => p.1 = name

/-- what one argument gives: switches that are complete, and the name of one whose value is the next argument -/
structure Given where
  settings : Settings
  awaiting : Option String

/-- switches of one letter in one argument -/
def letterSwitches (switches : List Switch) : List Char → Option Given
  | [] => some ⟨[], none⟩
  | c :: cs =>
    match switches.find? fun s => s.letter = some c with
    | none => none
    | some s =>
      if s.takesValue then some (if cs.isEmpty then ⟨[], some s.name⟩ else ⟨[(s.name, String.ofList cs)], none⟩)
      else (letterSwitches switches cs).map fun g => { g with settings := (s.name, "") :: g.settings }

/-- what stands before the first equals sign, and what follows it -/
def splitEquals (s : List Char) : List Char × Option (List Char) :=
  match s.dropWhile (· ≠ '=') with
  | _ :: v => (s.takeWhile (· ≠ '='), some v)
  | [] => (s, none)

/-- a switch by its name, with what may follow the equals sign -/
def Switch.given (s : Switch) (value : Option (List Char)) : Option Given :=
  match s.takesValue, value with
  | true, some v => some ⟨[(s.name, String.ofList v)], none⟩
  | true, none => some ⟨[], some s.name⟩
  | false, none => some ⟨[(s.name, "")], none⟩
  | false, some _ => none

/-- an argument that starts with a dash -/
def readSwitch (switches : List Switch) (arg : List Char) : Option Given :=
  let (name, value) := splitEquals arg
  match switches.find? fun s => s.name = String.ofList name with
  | some s => s.given value
  | none => if "--".toList.isPrefixOf arg then none else letterSwitches switches (arg.drop 1)

/-- whether an argument is read as switches -/
def isSwitch (arg : String) : Bool := arg.toList.head? = some '-' && 1 < arg.length

/-- switches and other arguments; `mixed` says that switches may follow other arguments -/
def readArguments (switches : List Switch) (mixed : Bool) : List String → Option (Settings × List String)
  | [] => some ([], [])
  | arg :: rest =>
    if arg = "--" then some ([], rest)
    else if isSwitch arg then
      match readSwitch switches arg.toList with
      | none => none
      | some given =>
        match given.awaiting with
        | none => (readArguments switches mixed rest).map fun p => (given.settings ++ p.1, p.2)
        | some name =>
          match rest with
          | [] => none
          | v :: more => (readArguments switches mixed more).map fun p => (given.settings ++ (name, v) :: p.1, p.2)
    else if mixed then (readArguments switches mixed rest).map fun p => (p.1, arg :: p.2)
    else some ([], arg :: rest)

/-! ## Commands -/

/-- what the program can be told to do -/
inductive Command where
  | compile (file : Option Path) (out : Path) (config : Option Path)
  | parse (file : Option Path) (format : String) (config : Option Path)
  | serve (host : String) (port : Int)
  | help

inductive Request where
  | version
  | usage
  | run (verbose : Bool) (c : Command)
  | misuse

def helpSwitch : Switch := ⟨"--help", none, false⟩

def outSwitch : Switch := ⟨"--out", some 'o', true⟩

def configSwitch : Switch := ⟨"--config", none, true⟩

def formatSwitch : Switch := ⟨"--format", some 'f', true⟩

def hostSwitch : Switch := ⟨"--host", none, true⟩

def portSwitch : Switch := ⟨"--port", some 'p', true⟩

def versionSwitch : Switch := ⟨"--version", some 'V', false⟩

def verboseSwitch : Switch := ⟨"--verbose", some 'v', false⟩

def switchesOf : String → Option (List Switch)
  | "compile" => some [outSwitch, configSwitch, helpSwitch]
  | "parse" => some [formatSwitch, configSwitch, helpSwitch]
  | "serve" => some [hostSwitch, portSwitch, helpSwitch]
  | "help" => some [helpSwitch]
  | _ => none

/-- the value of a switch, or what it is as a rule -/
def valueOr (s : Settings) (w : Switch) (usual : String) : String := (lastValue s w.name).getD usual

/-- a path that can be given; no character in it may end it -/
def pathArgument (s : String) : Option Path :=
  let p := Path.ofText s
  if p.hasNul then none else some p

/-- a path that need not be given -/
def pathOrNone : Option String → Option (Option Path)
  | none => some none
  | some s => (pathArgument s).map some

/-- the one file that may be named -/
def fileArgument : List String → Option (Option Path)
  | [] => some none
  | [f] => pathOrNone (some f)
  | _ => none

/-- a command with its arguments; nothing if they make no sense -/
def commandOf (name : String) (s : Settings) (others : List String) : Option Command :=
  match name with
  | "compile" => do
    let file ← fileArgument others
    let out ← pathArgument (valueOr s outSwitch "./dist")
    let config ← pathOrNone (lastValue s configSwitch.name)
    some (.compile file out config)
  | "parse" => do
    let file ← fileArgument others
    let config ← pathOrNone (lastValue s configSwitch.name)
    some (.parse file (valueOr s formatSwitch "text") config)
  | "serve" =>
    if others.isEmpty then
      (Number.readInt? (valueOr s portSwitch "8000").toList).map fun n => .serve (valueOr s hostSwitch "127.0.0.1") n
    else none
  | "help" => if others.isEmpty then some .help else none
  | _ => none

def requestOf (args : List String) : Request :=
  match readArguments [versionSwitch, verboseSwitch, helpSwitch] false args with
  | none => .misuse
  | some (settings, rest) =>
    if isGiven settings versionSwitch.name then .version
    else if isGiven settings helpSwitch.name then .usage
    else
      match rest with
      | [] => .misuse
      | name :: more =>
        match switchesOf name with
        | none => .misuse
        | some switches =>
          match readArguments switches true more with
          | none => .misuse
          | some (s, others) =>
            if isGiven s helpSwitch.name then .usage
            else
              match commandOf name s others with
              | some c => .run (isGiven settings verboseSwitch.name) c
              | none => .misuse

end Pagewright.Console
