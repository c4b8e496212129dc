/-
The cells of a console that a text takes. A joiner fuses the character after it with the one before, so that both take
the cells of the first; the emoji selector gives a character that has an emoji form a second cell. A cluster is a
character with all that takes no cell of its own.
-/
import Pagewright.Text.CellWidth

namespace Pagewright.Text

/-- the emoji selector widens the character measured last -/
def widening (last : Option Char) : Nat := if last.any isWidened then 1 else 0

/-- the cells of a text; `last` is the last character that took any -/
def cellsAfter (last : Option Char) : List Char → Nat
  | [] => 0
  | '\u200d' :: [] => 0
  | '\u200d' :: _ :: r => cellsAfter last r
  | '\ufe0f' :: r => widening last + cellsAfter none r
  | c :: r =>
    match cellWidth c with
    | 0 => cellsAfter last r
    | w => w + cellsAfter (some c) r

def cells (s : List Char) : Nat := cellsAfter none s

/-- characters that belong together and the cells they take -/
structure Cluster where
  text : List Char
  width : Nat
  deriving DecidableEq, Repr

def Cluster.extend (g : Cluster) (s : List Char) (more : Nat) : Cluster := ⟨g.text ++ s, g.width + more⟩

/-- the clusters from a begun one on; `last` is the last character that took a cell -/
def clustersAfter (last : Option Char) (g : Cluster) : List Char → List Cluster
  | [] => [g]
  | '\u200d' :: [] => [g.extend ['\u200d'] 0]
  | '\u200d' :: c :: r => clustersAfter last (g.extend ['\u200d', c] 0) r
  | '\ufe0f' :: r => clustersAfter none (g.extend ['\ufe0f'] (widening last)) r
  | c :: r =>
    match cellWidth c with
    | 0 => clustersAfter last (g.extend [c] 0) r
    | w => g :: clustersAfter (some c) ⟨[c], w⟩ r

/-- a text in clusters; a joiner or selector at the front has nothing to belong to -/
def clusters : List Char → List Cluster
  | [] => []
  | c :: r =>
    if c = '\u200d' || c = '\ufe0f' then clustersAfter none ⟨[c], 0⟩ r
    else clustersAfter (if cellWidth c = 0 then none else some c) ⟨[c], cellWidth c⟩ r

end Pagewright.Text
