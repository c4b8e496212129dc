/-
The command line: runs a command on the disk of the machine, prints what it says and ends with its exit code. Listening
on a socket is not done here; the HTTP interface is `Server.handle`.
-/
import Pagewright.Console.Command
import Pagewright.Console.Emoji.Names
import Pagewright.Console.Piped
import Std.Time.DateTime.Timestamp

namespace Pagewright.Main

open Files (Cause Disk FileError Path)

/-- whether a path leads to a directory -/
def isDirectory (p : Path) : IO Bool := do
  try
    discard (IO.FS.realPath (p.text ++ "/."))
    pure true
  catch _ => pure false

/-- the cause of an error of the system; an error of another kind is not caught -/
def causeOf (p : Path) (e : IO.Error) : IO Cause := do
  match e with
  | .noFileOrDirectory _ _ _ => pure .notFound
  | .alreadyExists _ _ _ => pure .exists_
  | .inappropriateType _ _ _ => if ← isDirectory p then pure .isDirectory else pure .notDirectory
  | e =>
    if p.hasNul then pure .hasNul
    else if p.isTooLong || p.parts.any fun s => Path.nameLimit < s.utf8ByteSize then pure .tooLong
    else if ← isDirectory p then pure .isDirectory
    else throw e

/-- an operation of the system on a path -/
def attempt {α : Type} (p : Path) (action : IO α) : IO (Except FileError α) := do
  try
    pure (.ok (← action))
  catch e => pure (.error ⟨← causeOf p e, p⟩)

def disk : Disk IO where
  read p := attempt p (IO.FS.readBinFile p.text)
  write p s := attempt p (IO.FS.writeFile p.text s)
  makeDirectory p := attempt p (IO.FS.createDir p.text)
  isFile p := do
    match ← attempt p (IO.FS.readBinFile p.text) with
    | .ok _ => pure (.ok true)
    | .error e => if e.cause = .tooLong then pure (.error e) else pure (.ok false)
  isDirectory := isDirectory

/-- the time on the clock of the machine -/
def now : IO Instant := do
  let t ← Std.Time.Timestamp.now
  pure ⟨t.toSecondsSinceUnixEpoch.val, 0⟩

/-- what is said of settings with issues -/
def settingsDetail (issues : List Check.Issue) : String := Text.unlines (issues.map fun i => i.problem.message)

/-- what is said of an error that ended a command -/
def escapeText : Console.Escape → String
  | .notText => "The file is not UTF-8 text."
  | .numeral => "A number has too many digits."
  | .tooDeep => "The brackets of the options file nest too deep."
  | .invalid issues => settingsDetail issues
  | .markup e => e.message?.getD "A colour lacks a number."
  | .unreachable e => e.message

/-- the machine; no style is shown on its channels, and its stack has room for what fits into a file -/
def host : IO Console.Host := do
  let channel (s : IO.FS.Stream) : IO Console.Channel := do
    pure { Console.Channel.piped Console.Emoji.named? with isTerminal := ← s.isTty }
  pure {
    levelName := ← IO.getEnv "SWEB_LOG_LEVEL"
    platform := "Lean 4"
    now := ← now
    coloured := false
    out := ← channel (← IO.getStdout)
    err := ← channel (← IO.getStderr)
    config := ⟨fun _ _ => true, fun _ => "this is no document", settingsDetail⟩ }

def run (args : List String) : IO UInt32 := do
  let o ← Console.run disk (← host) args
  IO.print o.stdout
  IO.eprint o.stderr
  match o.escaped, o.served with
  | some e, _ => IO.eprintln (escapeText e)
  | none, some _ => IO.eprintln "No socket was opened."
  | none, none => pure ()
  pure (UInt32.ofNat o.status)

end Pagewright.Main

def main (args : List String) : IO UInt32 := Pagewright.Main.run args
