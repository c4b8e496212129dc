/-
Log records and their two texts: a line of JSON for a file, and a line for people. A record can be written to a file only if
no integer in it is too long to be written.
-/
import Pagewright.Calendar
import Pagewright.Log.Event
import Pagewright.Log.Level

namespace Pagewright.Log

open Json (Value Members)
open Text (Wide)

/-- a record: who reports it, how grave it is, what it says and when, with data beside it -/
structure Record where
  name : Wide
  level : Int
  message : Wide
  created : Instant
  context : Members
  /-- the class and the text of an exception -/
  exception : Option (String × Wide)

/-- the text of an exception: a failed lookup shows its key quoted -/
def exceptionText (type : String) (message : Wide) : Wide :=
  if type = "KeyError" then Text.quoted message else message

/-- data given as a whole together with single items; an item goes before what is given under its name -/
def joinedContext (given items : Members) : Members := given.overlay items

namespace Record

/-- the last part of the name -/
def component (r : Record) : Wide :=
  .ofReversed (r.name.points.reverse.takeWhile (· ≠ .char '.')) [] []

def exceptionMembers : Option (String × Wide) → Members
  | some (type, text) => [("exception", .object [("type", .text type), ("message", .text text)])]
  | none => []

/-- what is told of a context, unless it is empty -/
def contextMembers (context : Members) : Members := if context.isEmpty then [] else [("context", .object context)]

def members (r : Record) : Members :=
  ("timestamp", .text r.created.text) :: ("level", .text (levelName r.level)) :: ("component", .text r.component) ::
    ("message", .text r.message) :: (contextMembers r.context ++ exceptionMembers r.exception)

def isWritable (r : Record) : Bool := (Value.int r.level).isWritable && (Value.object r.context).isWritable

def jsonLine (r : Record) : String := (Value.object r.members).compact

def paint (code : String) : String := String.ofList [Char.ofNat 27] ++ "[" ++ code ++ "m"

def unpaint : String := paint "0"

/-- the colour of a level; most have none -/
def levelColour (level : Int) : String :=
  if level = 10 then paint "36"
  else if level = 30 then paint "33"
  else if level = 40 then paint "31"
  else if level = 50 then paint "35"
  else ""

/-- the time and the component in front of a message -/
def consoleHead (coloured : Bool) (r : Record) : Wide :=
  if coloured then
    ↑(paint "2" ++ r.created.clockText ++ unpaint ++ " " ++ paint "34" ++ "[") ++ r.component ++ ↑("]" ++ unpaint)
  else ↑("[" ++ r.created.clockText ++ "] [") ++ r.component ++ ↑"]"

/-- the level in front of a message, unless it is the usual one -/
def consoleLevel (coloured : Bool) (r : Record) : String :=
  if r.level = infoLevel then ""
  else if coloured then " " ++ levelColour r.level ++ levelName r.level ++ unpaint ++ ":"
  else " " ++ levelName r.level ++ ":"

def consoleLine (coloured : Bool) (r : Record) : Wide :=
  consoleHead coloured r ++ ↑(consoleLevel coloured r ++ " ") ++ r.message

end Record

def Event.record (e : Event) (now : Instant) : Record :=
  ⟨e.origin.tag, e.severity.number, e.message, now, [], none⟩

end Pagewright.Log
