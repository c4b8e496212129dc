/-
Files and directories as a program sees them: what can be asked of a disk, and why it may refuse. A `Disk` is a record of
operations in some monad, so that the same command runs on the disk of the machine and on a tree held in memory.
-/
import Pagewright.Files.Path
import Pagewright.Text.Quoted

namespace Pagewright.Files

/-- why an operation on a file fails -/
inductive Cause where
  | notFound | exists_ | notDirectory | isDirectory | tooLong | hasNul
  deriving DecidableEq, Repr

/-- a failed operation and the path it was about -/
structure FileError where
  cause : Cause
  path : Path
  deriving DecidableEq, Repr

namespace FileError

def number (e : FileError) : Nat :=
  match e.cause with
  | .notFound => 2
  | .exists_ => 17
  | .notDirectory => 20
  | .isDirectory => 21
  | .hasNul => 22
  | .tooLong => 36

def words (e : FileError) : String :=
  match e.cause with
  | .notFound => "No such file or directory"
  | .exists_ => "File exists"
  | .notDirectory => "Not a directory"
  | .isDirectory => "Is a directory"
  | .hasNul => "Invalid argument"
  | .tooLong => "File name too long"

def message (e : FileError) : String :=
  "[Errno " ++ toString e.number ++ "] " ++ e.words ++ ": " ++ Text.quoted e.path.text

end FileError

/-- what can be asked of a disk; whether there is a file can be asked only of a path that is not too long -/
structure Disk (m : Type → Type) where
  read : Path → m (Except FileError ByteArray)
  write : Path → String → m (Except FileError Unit)
  makeDirectory : Path → m (Except FileError Unit)
  isFile : Path → m (Except FileError Bool)
  isDirectory : Path → m Bool

namespace Disk

variable {m : Type → Type} [Monad m]

/-- a directory that was there already is as good as a new one -/
def unlessDirectory (d : Disk m) (p : Path) (e : FileError) : m (Except FileError Unit) := do
  if ← d.isDirectory p then pure (.ok ()) else pure (.error e)

/-- make a directory, whose parent has to be there -/
def ensureDirectory (d : Disk m) (p : Path) : m (Except FileError Unit) := do
  match ← d.makeDirectory p with
  | .ok u => pure (.ok u)
  | .error e => if e.cause = .notFound then pure (.error e) else d.unlessDirectory p e

/-- make a directory and those that contain it, at most `depth` of them -/
def ensureWithin (d : Disk m) (p : Path) : Nat → m (Except FileError Unit)
  | 0 => d.ensureDirectory p
  | depth + 1 => do
    match ← d.makeDirectory p with
    | .ok u => pure (.ok u)
    | .error e =>
      if e.cause = .notFound then
        if p.parent = p then pure (.error e)
        else do
          match ← d.ensureWithin p.parent depth with
          | .ok _ => d.ensureDirectory p
          | .error e => pure (.error e)
      else d.unlessDirectory p e

/-- make a directory and those that contain it -/
def ensureDirectories (d : Disk m) (p : Path) : m (Except FileError Unit) := d.ensureWithin p p.parts.length

end Disk

end Pagewright.Files
