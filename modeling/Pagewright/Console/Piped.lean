/-
A machine without terminals. A channel that is no terminal is given no control sequences, and of a text with tags only the
text, in lines of limited width.
-/
import Pagewright.Console.Markup
import Pagewright.Console.Plain
import Pagewright.Console.Wrap

namespace Pagewright.Console

def Channel.piped (names : Emoji.Names) : Channel where
  isTerminal := false
  unstyled := visible
  tagged s := (shownText names s).map wrap

/-- a machine without terminals at the start of the clock, which has room for `levels` brackets in an options file -/
def Host.piped (levels : Nat) : Host where
  levelName := none
  platform := ""
  now := ⟨0, 0⟩
  coloured := false
  out := .piped fun _ => none
  err := .piped fun _ => none
  config := {
    room := fun opened _ => opened.length ≤ levels
    documentDetail := fun _ => "Invalid statement"
    settingsDetail := fun issues => Text.unlines (issues.map fun i => i.problem.message) }

@[simp] theorem Host.room_piped (levels : Nat) (opened : List Toml.Bracket) (s : List Char) :
    (Host.piped levels).config.room opened s = decide (opened.length ≤ levels) := rfl

end Pagewright.Console
