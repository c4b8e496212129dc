/-
A tree of files and directories held in memory. Every path starts at the top, which is a directory that has always been
there; two dots lead one step up, and at the top nowhere.
-/
import Pagewright.Files.Disk

namespace Pagewright.Files

/-- a directory, or a file with what it holds -/
inductive Node where
  | directory
  | file (content : ByteArray)

/-- the names that lead from the top to a node -/
abbrev Names := List String

structure Tree where
  nodes : List (Names × Node)

namespace Tree

/-- the tree in which there is only the top -/
def empty : Tree := ⟨[]⟩

def node? (t : Tree) (names : Names) : Option Node :=
  if names = [] || names = ["/"] then some .directory else t.nodes.lookup names

def put (t : Tree) (names : Names) (n : Node) : Tree :=
  ⟨(t.nodes.filter fun p => p.1 ≠ names) ++ [(names, n)]⟩

def remove (t : Tree) (names : Names) : Tree := ⟨t.nodes.filter fun p => p.1 ≠ names⟩

/-- follow the parts of a path; all but the last have to be directories, and no name may be too long -/
def walk (t : Tree) (here : Names) : List String → Except Cause Names
  | [] => .ok here
  | p :: ps =>
    match t.node? here with
    | some .directory =>
      if Path.nameLimit < p.utf8ByteSize then .error .tooLong
      else walk t (if p = ".." then here.dropLast else here ++ [p]) ps
    | some (.file _) => .error .notDirectory
    | none => .error .notFound

/-- the names that a path leads to -/
def resolve (t : Tree) (p : Path) : Except Cause Names :=
  if p.hasNul then .error .hasNul
  else if p.isTooLong then .error .tooLong
  else t.walk (if p.root.isEmpty then [] else ["/"]) p.parts

/-- the node that a path leads to -/
def at? (t : Tree) (p : Path) : Option Node :=
  match t.resolve p with
  | .ok names => t.node? names
  | .error _ => none

/-- whether a path, which may not be too long, leads to a file -/
def isFile (t : Tree) (p : Path) : Except FileError Bool :=
  match t.resolve p with
  | .error .tooLong => .error ⟨.tooLong, p⟩
  | .error _ => .ok false
  | .ok names =>
    match t.node? names with
    | some (.file _) => .ok true
    | _ => .ok false

/-- whether a path leads to a directory -/
def isDirectory (t : Tree) (p : Path) : Bool :=
  match t.at? p with
  | some .directory => true
  | _ => false

def read (t : Tree) (p : Path) : Except FileError ByteArray :=
  match t.resolve p with
  | .error c => .error ⟨c, p⟩
  | .ok names =>
    match t.node? names with
    | some (.file content) => .ok content
    | some .directory => .error ⟨.isDirectory, p⟩
    | none => .error ⟨.notFound, p⟩

/-- whether the node at names can have nodes below it -/
def parentCause? (t : Tree) (names : Names) : Option Cause :=
  match t.node? names.dropLast with
  | some .directory => none
  | some (.file _) => some .notDirectory
  | none => some .notFound

/-- make a file or replace what it holds, given what it held before -/
def revise (t : Tree) (p : Path) (change : ByteArray → ByteArray) : Except FileError Tree :=
  match t.resolve p with
  | .error c => .error ⟨c, p⟩
  | .ok names =>
    match t.node? names with
    | some .directory => .error ⟨.isDirectory, p⟩
    | some (.file content) => .ok (t.put names (.file (change content)))
    | none =>
      match t.parentCause? names with
      | some c => .error ⟨c, p⟩
      | none => .ok (t.put names (.file (change ByteArray.empty)))

def write (t : Tree) (p : Path) (text : String) : Except FileError Tree := t.revise p fun _ => text.toUTF8

/-- add text at the end of a file, which is made if it is not there -/
def append (t : Tree) (p : Path) (text : String) : Except FileError Tree := t.revise p fun b => b ++ text.toUTF8

def makeDirectory (t : Tree) (p : Path) : Except FileError Tree :=
  match t.resolve p with
  | .error c => .error ⟨c, p⟩
  | .ok names =>
    match t.node? names with
    | some _ => .error ⟨.exists_, p⟩
    | none =>
      match t.parentCause? names with
      | some c => .error ⟨c, p⟩
      | none => .ok (t.put names .directory)

def rename (t : Tree) (source target : Names) : Tree :=
  match t.node? source with
  | some n => (t.remove source).put target n
  | none => t

/-- the files, by the text of their paths -/
def files (t : Tree) : List (String × ByteArray) :=
  t.nodes.filterMap fun p =>
    match p.2 with
    | .file content => some ("/".intercalate p.1, content)
    | .directory => none

/-- run a change of the tree as an operation on a disk -/
def changing (change : Tree → Except FileError Tree) : StateM Tree (Except FileError Unit) := do
  match change (← get) with
  | .ok t => do
    set t
    pure (.ok ())
  | .error e => pure (.error e)

/-- the disk that is a tree held in memory -/
def disk : Disk (StateM Tree) where
  read p := do return (← get).read p
  write p text := changing fun t => t.write p text
  makeDirectory p := changing fun t => t.makeDirectory p
  isFile p := do return (← get).isFile p
  isDirectory p := do return (← get).isDirectory p

/-- make a directory and those that contain it -/
def ensureDirectories (t : Tree) (p : Path) : Except FileError Unit × Tree := (disk.ensureDirectories p).run t

end Tree

end Pagewright.Files
