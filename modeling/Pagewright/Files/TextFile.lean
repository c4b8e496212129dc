/-
Text in files. A file of text is UTF-8, and every line end in it counts as a line feed.
-/
import Pagewright.Files.Disk
import Pagewright.Text.Utf8

namespace Pagewright.Files

inductive TextFault where
  | unreadable (e : FileError)
  | notText
  deriving DecidableEq, Repr

def textOfBytes (b : ByteArray) : Except TextFault String :=
  match Text.ofFile? b with
  | some s => .ok s
  | none => .error .notText

def Disk.readText {m : Type → Type} [Monad m] (d : Disk m) (p : Path) : m (Except TextFault String) := do
  match ← d.read p with
  | .ok b => pure (textOfBytes b)
  | .error e => pure (.error (.unreadable e))

end Pagewright.Files
