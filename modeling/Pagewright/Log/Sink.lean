/-
Where log records go. Once logging is set up, the records of the program go to the console and, if a directory was given,
to a file in it, as lines of JSON. When the file would grow beyond its bound it is put aside under a number, and a new
one is begun; files with too great a number are lost. A record that cannot be written leaves the file as it is; the complaint
about it on the console is left out. Records of others, and all of them before logging is set up, show only their message on
the console, from warnings upwards.
-/
import Pagewright.Files.Tree
import Pagewright.Log.Record

namespace Pagewright.Log

open Files (Tree Path FileError)
open Text (Wide)

/-- the name that the program's records start with -/
def rootName : String := "sweb"

/-- whether a record belongs to the program -/
def belongs (name : Wide) : Bool := name = rootName || (rootName ++ ".").toList.isPrefixOf name.start.toList

/-- a file for records: how long it may grow, and how many old ones are kept -/
structure FileTarget where
  path : Path
  maxBytes : Int
  backupCount : Int

structure Setup where
  level : Int
  file : Option FileTarget

/-- the console, the files, and how logging is set up -/
structure Journal where
  setup : Option Setup
  tree : Tree
  console : Wide

/-- the level from which on records of the program count -/
def Setup.threshold (s : Setup) : Int := if s.level = 0 then warningLevel else s.level

def backup (p : Path) (n : Nat) : Path := { p with parts := p.parts.dropLast ++ [p.name ++ "." ++ toString n] }

/-- put a file under another path -/
def moveFile (t : Tree) (source target : Path) : Tree :=
  match t.resolve source, t.resolve target with
  | .ok s, .ok d => t.rename s d
  | _, _ => t

/-- move the old files `n`, `n - 1`, …, `1` one number up -/
def shiftBackups (t : Tree) (p : Path) : Nat → Tree
  | 0 => t
  | n + 1 => shiftBackups (moveFile t (backup p (n + 1)) (backup p (n + 2))) p n

/-- put a full file aside; when no old files are kept it stays -/
def rotate (t : Tree) (f : FileTarget) : Tree :=
  if 0 < f.backupCount then
    moveFile (shiftBackups t f.path (f.backupCount.toNat - 1)) f.path (backup f.path 1)
  else t

def fileSize (t : Tree) (p : Path) : Nat :=
  match t.read p with
  | .ok b => b.size
  | .error _ => 0

/-- whether a line would fill the file -/
def isFull (t : Tree) (f : FileTarget) (line : String) : Bool :=
  0 < f.maxBytes && f.maxBytes ≤ (fileSize t f.path : Int) + line.length

def writeLine (t : Tree) (f : FileTarget) (line : String) : Tree :=
  let t := if isFull t f line then rotate t f else t
  match t.append f.path line with
  | .ok u => u
  | .error _ => t

namespace Journal

/-- nothing set up and nothing said -/
def start (t : Tree) : Journal := ⟨none, t, ""⟩

def say (s : Journal) (line : Wide) : Journal := { s with console := s.console ++ line ++ ↑"\n" }

/-- a record of the program, once logging is set up -/
def emit (s : Journal) (setup : Setup) (r : Record) : Journal :=
  if setup.threshold ≤ r.level && setup.level ≤ r.level then
    let s := s.say (r.consoleLine false)
    match setup.file with
    | some f => if r.isWritable then { s with tree := writeLine s.tree f (r.jsonLine ++ "\n") } else s
    | none => s
  else s

/-- log a record; a level that is not positive is never shown -/
def log (s : Journal) (r : Record) : Journal :=
  if r.level ≤ 0 then s
  else
    match s.setup, belongs r.name with
    | some setup, true => s.emit setup r
    | _, _ => if warningLevel ≤ r.level then s.say r.message else s

def fileName : String := "sweb.log"

/-- how long a log file may grow if nothing else is said -/
def usualMaxBytes : Int := 5 * 1024 * 1024

/-- how many old log files are kept if nothing else is said -/
def usualBackupCount : Int := 3

/-- make the log directory and an empty log file where there is none -/
def openFile (t : Tree) (directory path : Path) : Except FileError Unit × Tree :=
  match t.ensureDirectories directory with
  | (.error e, t) => (.error e, t)
  | (.ok _, t) =>
    match t.append path "" with
    | .ok u => (.ok (), u)
    | .error e => (.error e, t)

/-- set logging up; gives the path of the log file, if there is one -/
def configure (s : Journal) (level : Int) (directory : Option Path) (maxBytes backupCount : Int) (now : Instant) :
    Except FileError (Option Path) × Journal :=
  match directory with
  | none => (.ok none, { s with setup := some ⟨level, none⟩ })
  | some d =>
    let path := d.child fileName
    match openFile s.tree d path with
    | (.error e, t) => (.error e, { s with setup := some ⟨level, none⟩, tree := t })
    | (.ok _, t) =>
      let s : Journal := { s with setup := some ⟨level, some ⟨path, maxBytes, backupCount⟩⟩, tree := t }
      (.ok (some path), s.log ⟨rootName, Severity.debug.number, "SWeb logging initialized", now,
        [("log_format", .text "jsonl"), ("log_file", .text path.text)], none⟩)

/-- how many places records go to -/
def targets (s : Journal) : Nat :=
  match s.setup with
  | none => 0
  | some setup => 1 + (if setup.file.isSome then 1 else 0)

end Journal

end Pagewright.Log
