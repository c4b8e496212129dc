/-
What a command runs on: its two channels and what the libraries make of a text on them, the clock and the environment. A
command is the same function of its host everywhere, so that what is said of it holds for terminals and files alike.
-/
import Pagewright.Calendar
import Pagewright.Config

namespace Pagewright.Console

/-- what is wrong with a tag: it closes what is not open, and where it stands, or its style lacks a number -/
inductive MarkupFault where
  | nothingOpen (position : Nat)
  | notOpen (tag : String) (position : Nat)
  | numeral
  deriving DecidableEq, Repr

/-- what is wrong, if there are words for it -/
def MarkupFault.message? : MarkupFault → Option String
  | .nothingOpen position => some ("closing tag '[/]' at position " ++ toString position ++ " has nothing to close")
  | .notOpen tag position =>
    some ("closing tag '" ++ tag ++ "' at position " ++ toString position ++ " doesn't match any open tag")
  | .numeral => none

/-- a channel: whether it is a terminal, what is left of a text for anything but a terminal, and how a text with tags is
shown, with its line ends -/
structure Channel where
  isTerminal : Bool
  unstyled : String → String
  tagged : String → Except MarkupFault String

/-- what a channel shows of a text: all of it on a terminal -/
def Channel.shown (c : Channel) (s : String) : String := if c.isTerminal then s else c.unstyled s

/-- a text as a line, or as lines if it has line ends -/
def Channel.line (c : Channel) (s : String) : String := c.shown s ++ "\n"

/-- where a command runs: the level that the environment names for the log, what the program runs on, the time, whether lines
of the log are coloured, the two channels, and what options depend on -/
structure Host where
  levelName : Option String
  platform : String
  now : Instant
  coloured : Bool
  out : Channel
  err : Channel
  config : Config.Host

end Pagewright.Console
