/-
Tables while they are filled. A key with points leads through tables, which are made where they are missing; through an
array of tables it leads to the last one. Marks on paths say what may no longer be touched: a table that was opened
cannot be opened again, and nothing can be added to an array or table that was written as one value.
-/
import Pagewright.Json.Value

namespace Pagewright.Toml

open Json (Value Members)

/-- a path of keys from the top of a document -/
abbrev KeyPath := List String

inductive Mark where
  | opened
  | closed
  deriving DecidableEq, Repr

abbrev Marks := List (KeyPath × Mark)

namespace Marks

def isOpened (ms : Marks) (path : KeyPath) : Bool := ms.contains (path, .opened)

/-- whether a path leads to or into a value that is closed -/
def isClosed (ms : Marks) (path : KeyPath) : Bool := ms.any fun m => m.2 = .closed && m.1.isPrefixOf path

/-- forget what is known of a path and of all below it -/
def forget (ms : Marks) (path : KeyPath) : Marks := ms.filter fun m => !path.isPrefixOf m.1

end Marks

/-- change the table that a path leads to; `throughArrays` says whether arrays of tables may lie on the way -/
def updateAt (throughArrays : Bool) (change : Members → Option Members) : KeyPath → Members → Option Members
  | [], ms => change ms
  | k :: ks, ms =>
    match ms.get? k with
    | none => (updateAt throughArrays change ks []).map fun inner => ms.put k (.object inner)
    | some (.object inner) => (updateAt throughArrays change ks inner).map fun inner => ms.put k (.object inner)
    | some (.array items) =>
      if throughArrays then
        match items.getLast? with
        | some (.object inner) =>
          (updateAt throughArrays change ks inner).map fun inner => ms.put k (.array (items.dropLast ++ [.object inner]))
        | _ => none
      else none
    | some _ => none

/-- put a value under a key that is not in use -/
def insertNew (k : String) (v : Value) (ms : Members) : Option Members :=
  match ms.get? k with
  | none => some (ms.put k v)
  | some _ => none

/-- add an empty table to the array under a key -/
def appendTable (k : String) (ms : Members) : Option Members :=
  match ms.get? k with
  | none => some (ms.put k (.array [.object []]))
  | some (.array items) => some (ms.put k (.array (items ++ [.object []])))
  | some _ => none

/-- put a value at the end of a path -/
def insertAt (throughArrays : Bool) (path : KeyPath) (v : Value) (ms : Members) : Option Members :=
  match path.getLast? with
  | none => none
  | some k => updateAt throughArrays (insertNew k v) path.dropLast ms

def isCompound : Value → Bool
  | .array _ | .object _ => true
  | _ => false

end Pagewright.Toml
