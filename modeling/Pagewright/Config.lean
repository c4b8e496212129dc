/-
Options from a configuration file. The file is TOML, and its `compiler` table gives options; what it does not give is as
usual. A file beside the source is used when no other is named.

What the readers of documents and of settings say of a bad file is their own text, and how deep they can read depends on the
stack, so both come in as parameters (`Host`).
-/
import Pagewright.Check.Tree
import Pagewright.Files.Disk
import Pagewright.Text.Utf8
import Pagewright.Toml.Reader

namespace Pagewright.Config

open Files (Disk FileError Path)

/-- what options depend on besides their file: the room for values that nest, and the words for a document that is not TOML and
for settings with issues -/
structure Host where
  room : Toml.Room
  documentDetail : String → String
  settingsDetail : List Check.Issue → String

/-- why a file gives no options; a fault of what it says comes with its words -/
inductive Fault where
  | unreadable (e : FileError)
  | unreachable (e : FileError)
  | notText
  | notToml (detail : String)
  | hugeInteger
  | tooDeep
  | invalid (issues : List Check.Issue) (detail : String)

/-- what is wrong with a configuration file, if it is something to report -/
def Fault.message? (path : Path) : Fault → Option String
  | .unreadable e =>
    if e.cause = .hasNul then none else some ("Cannot read config " ++ path.text ++ ": " ++ e.message)
  | .unreachable _ => none
  | .notToml detail => some ("Invalid TOML in " ++ path.text ++ ": " ++ detail)
  | .invalid _ detail => some ("Invalid [compiler] settings in " ++ path.text ++ ":\n" ++ detail)
  | .notText => none
  | .hugeInteger => none
  | .tooDeep => none

section

variable (h : Host)

/-- the options that a document gives -/
def ofText (s : String) : Except Fault Options :=
  match Toml.parse h.room s with
  | .error .invalid => .error (.notToml (h.documentDetail s))
  | .error .hugeInteger => .error .hugeInteger
  | .error .tooDeep => .error .tooDeep
  | .ok table =>
    match Check.options ((table.get? "compiler").getD (.object [])) with
    | .ok o => .ok o
    | .error issues => .error (.invalid issues (h.settingsDetail issues))

def ofBytes (b : ByteArray) : Except Fault Options :=
  match String.fromUTF8? b with
  | some s => ofText h s
  | none => .error .notText

def fileName : String := "sweb.toml"

/-- the file beside a source -/
def beside (source : Path) : Path := source.parent.child fileName

variable {m : Type → Type} [Monad m]

def load (d : Disk m) (path : Path) : m (Except Fault Options) := do
  match ← d.read path with
  | .ok b => pure (ofBytes h b)
  | .error e => pure (.error (.unreadable e))

/-- the options for a source: from the file that is named, else from the file beside the source if there is one. A fault
comes with the path of the file it is about. -/
def discover (d : Disk m) (source : Path) (named : Option Path) : m (Except (Path × Fault) Options) := do
  match named with
  | some path => pure ((← load h d path).mapError (path, ·))
  | none =>
    let path := beside source
    match ← d.isFile path with
    | .ok true => pure ((← load h d path).mapError (path, ·))
    | .ok false => pure (.ok Options.standard)
    | .error e => pure (.error (path, .unreachable e))

end

end Pagewright.Config
