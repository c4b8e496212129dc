/-
The version of the program: what a project file says, else what is known of the installation.
-/
import Pagewright.Files.TextFile
import Pagewright.Text.Blank

namespace Pagewright.Version

open Files (Disk Path TextFault)

def isQuote (c : Char) : Bool := c = '"' || c = '\''

/-- a text in quotes, which is not empty; it ends at the next quote of either kind -/
def quotedText (s : List Char) : Option (List Char) :=
  match s with
  | c :: r =>
    let body := r.takeWhile fun d => !isQuote d
    if isQuote c && !body.isEmpty && body.length < r.length then some body else none
  | [] => none

/-- the version that a text starts with a setting of -/
def settingAt (s : List Char) : Option (List Char) :=
  let word := "version".toList
  if word.isPrefixOf s then
    match (s.drop word.length).dropWhile Text.isBlank with
    | '=' :: r => quotedText (r.dropWhile Text.isBlank)
    | _ => none
  else none

/-- the first setting at the start of a line; `fresh` says that a line starts here -/
def firstSetting (fresh : Bool) : List Char → Option (List Char)
  | [] => none
  | c :: r =>
    match (if fresh then settingAt (c :: r) else none) with
    | some v => some v
    | none => firstSetting (c = '\n') r

/-- the version that is known when nothing is -/
def unknown : String := "0.0.0"

/-- the version, given the text of a project file and what is known of the installation -/
def find (project installed : Option String) : String :=
  match project.bind fun s => firstSetting true s.toList with
  | some v => String.ofList v
  | none => installed.getD unknown

def projectFile : Path := Path.ofText "pyproject.toml"

/-- the version, where there may be a project file on a disk -/
def discover {m : Type → Type} [Monad m] (d : Disk m) (installed : Option String) : m (Except TextFault String) := do
  match ← d.isFile projectFile, ← d.isDirectory projectFile with
  | .error e, _ => pure (.error (.unreadable e))
  | .ok false, false => pure (.ok (find none installed))
  | .ok _, _ => pure ((← d.readText projectFile).map fun s => find (some s) installed)

def current : String := "0.1.0"

end Pagewright.Version
