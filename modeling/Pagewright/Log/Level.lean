/-
Levels of log records. A level is a number; six of them have names, two of which have a second one.
-/
import Pagewright.Json.Writer
import Pagewright.Text.Upper

namespace Pagewright.Log

def levels : List (String × Int) :=
  [("CRITICAL", 50), ("FATAL", 50), ("ERROR", 40), ("WARNING", 30), ("WARN", 30), ("INFO", 20), ("DEBUG", 10),
    ("NOTSET", 0)]

def levelName (level : Int) : String :=
  match levels.find? fun l => l.2 = level with
  | some l => l.1
  | none => "Level " ++ Json.intText level

/-- the level that holds when nothing is said -/
def infoLevel : Int := 20

/-- the level from which on a record is shown when logging is not set up -/
def warningLevel : Int := 30

inductive Requested where
  | number (n : Int)
  | name (s : String)
  deriving DecidableEq, Repr

/-- the level that is asked for, or else the one that the environment names; an unknown name means the usual level -/
def effectiveLevel (requested : Option Requested) (environment : Option String) : Int :=
  match requested.getD (.name (environment.getD "INFO")) with
  | .number n => n
  | .name s => (levels.lookup (Text.upper s)).getD infoLevel

end Pagewright.Log
