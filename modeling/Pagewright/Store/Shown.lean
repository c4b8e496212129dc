/-
Records as answers show them. What cannot be shown can be stored all the same; what that is depends on who shows the
answer. `shownWithin` shows data that hold no half and do not nest deeper than a bound.
-/
import Pagewright.Store.Basic

namespace Pagewright.Store

open Json (Value Members)

mutual

/-- data as an answer shows them: a number that is not finite is shown as null -/
def presentable : Value → Value
  | .float x => if x.isFinite then .float x else .null
  | .array vs => .array (presentableItems vs)
  | .object ms => .object (presentableMembers ms)
  | v => v

def presentableItems : List Value → List Value
  | [] => []
  | v :: vs => presentable v :: presentableItems vs

def presentableMembers : Members → Members
  | [] => []
  | (k, v) :: ms => (k, presentable v) :: presentableMembers ms

end

mutual

/-- how many levels a value has: one more than the deepest of its parts -/
def levels : Value → Nat
  | .array vs => levelsOfItems vs + 1
  | .object ms => levelsOfMembers ms + 1
  | _ => 1

def levelsOfItems : List Value → Nat
  | [] => 0
  | v :: vs => max (levels v) (levelsOfItems vs)

def levelsOfMembers : Members → Nat
  | [] => 0
  | (_, v) :: ms => max (levels v) (levelsOfMembers ms)

end

/-- whether data have at most so many levels, hold no half, and no integer that is too long to be written -/
def isShowable (n : Nat) (v : Value) : Bool := levels v ≤ n && !v.hasHalf && v.isWritable

def shownWithin (n : Nat) (v : Value) : Option Value := if isShowable n v then some (presentable v) else none

section

variable (present? : Value → Option Value)

/-- values as an answer shows them; nothing when one of them cannot be shown -/
def shownItems? (vs : List Value) : Option Value := (vs.mapM present?).map .array

def Answer.shown? : Answer → Option Value
  | .apps as => shownItems? present? (as.map SavedApp.toValue)
  | .app a => present? (.ofOption (a.map SavedApp.toValue))
  | .entries es => shownItems? present? (es.map Entry.toValue)
  | .entry e => present? (.ofOption (e.map Entry.toValue))
  | .removed b => present? (.bool b)

end

end Pagewright.Store
