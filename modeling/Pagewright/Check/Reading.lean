/-
Reading data from outside as values of known types. A reading gives the value, or every issue found, in the order of
the parts. Some conversions are made: to truth values from the numbers 0 and 1 and a few words, to integers from truth
values, whole numbers and numerals. A text with halves is refused wherever a plain text is meant, also in trees and options,
where it never comes.
-/
import Pagewright.App
import Pagewright.Number.Lenient
import Pagewright.Number.Word

namespace Pagewright.Check

open Json (Value Members)
open Text (Wide)

/-- a value, or what is wrong -/
abbrev Reading (α : Type) : Type := Except (List Issue) α

namespace Reading

/-- one issue at the value itself -/
def refuse {α : Type} (p : Problem) : Reading α := .error [⟨[], p⟩]

/-- turn what was read into something else -/
def into {α β : Type} (r : Reading α) (f : α → β) : Reading β := r.map f

/-- apply what was read to one more reading; the issues of both are kept -/
def andAlso {α β : Type} (f : Reading (α → β)) (x : Reading α) : Reading β :=
  match f, x with
  | .ok g, .ok a => .ok (g a)
  | .ok _, .error e => .error e
  | .error e, .ok _ => .error e
  | .error e, .error e' => .error (e ++ e')

/-- a reading of a part, seen from the whole -/
def under {α : Type} (k : Key) (r : Reading α) : Reading α :=
  match r with
  | .ok a => .ok a
  | .error e => .error (e.map (Issue.under k))

end Reading

open Reading

/-- a text that may hold halves -/
def wide : Value → Reading Wide
  | .text w => .ok w
  | _ => refuse .notText

/-- a text without halves, as it is -/
def whole (w : Wide) : Reading String :=
  match w.toString? with
  | some s => .ok s
  | none => refuse .notUnicode

def text : Value → Reading String
  | .text w => whole w
  | _ => refuse .notText

/-- a text of at least one character -/
def nonEmptyText (v : Value) : Reading String := do
  let s ← text v
  if s.isEmpty then refuse .textTooShort else .ok s

/-- a text that may hold halves, or nothing -/
def wideOrNull : Value → Reading (Option Wide)
  | .null => .ok none
  | v => (wide v).map some

def name (v : Value) : Reading String := do
  let s ← text v
  match Name.check s with
  | .ok n => .ok n
  | .error reason => refuse (.refused reason)

/-- the words for a truth value -/
def wordsFor : Bool → List String
  | false => ["0", "off", "f", "false", "n", "no"]
  | true => ["1", "on", "t", "true", "y", "yes"]

def boolOfInt (n : Int) : Reading Bool :=
  if n = 0 then .ok false
  else if n = 1 then .ok true
  else if Number.fitsWord n then refuse .unreadableBool
  else refuse .notBool

def bool : Value → Reading Bool
  | .bool b => .ok b
  | .int n => boolOfInt n
  | .float x =>
    match x.toInt? with
    | some n => if n = -Number.wordBound then refuse .notBool else boolOfInt n
    | none => refuse .notBool
  | .text w => do
    let s ← whole w
    let w := String.ofList (s.toList.map Char.toLower)
    if (wordsFor true).contains w then .ok true
    else if (wordsFor false).contains w then .ok false
    else refuse .unreadableBool
  | _ => refuse .notBool

def intOfText (s : String) : Reading Int :=
  match Number.readLenient s.toList with
  | .ok n => .ok n
  | .error .unreadable => refuse .unreadableInt
  | .error .tooLong => refuse .hugeInt

def int : Value → Reading Int
  | .bool b => .ok (if b then 1 else 0)
  | .int n => .ok n
  | .float x =>
    if !x.isFinite then refuse .notFinite
    else
      match x.toInt? with
      | some n => if Number.fitsWord n && n ≠ -Number.wordBound then .ok n else refuse .hugeInt
      | none => refuse .fractionalInt
  | .text w => whole w >>= intOfText
  | _ => refuse .notInt

def object : Value → Reading Members
  | .object ms => .ok ms
  | _ => refuse .notObject

/-- the readings of the items of an array, the first at index `n` -/
def itemsFrom {α : Type} (read : Value → Reading α) (n : Nat) : List Value → Reading (List α)
  | [] => .ok []
  | v :: vs => ((under (.index n) (read v)).into List.cons).andAlso (itemsFrom read (n + 1) vs)

/-- an array of values of one type -/
def array {α : Type} (read : Value → Reading α) : Value → Reading (List α)
  | .array vs => itemsFrom read 0 vs
  | _ => refuse .notArray

/-- an array of names; the first that is none is reported at the array -/
def names (v : Value) : Reading (List String) := do
  let ns ← array text v
  match ns.find? fun s => !Name.isAccepted s.toList with
  | none => .ok ns
  | some s => refuse (.refused (Name.refusal s))

/-- a default value; of any other value, each type it might have had is reported -/
def literal : Value → Reading (Option Literal)
  | .null => .ok none
  | .bool b => .ok (some (.bool b))
  | .int n => .ok (some (.int n))
  | .float x => .ok (some (.float x))
  | .text w => (whole w).map fun s => some (.text s)
  | _ => .error [⟨[.name "bool"], .notBool⟩, ⟨[.name "int"], .notInt⟩, ⟨[.name "float"], .notFloat⟩,
      ⟨[.name "str"], .notText⟩]

/-- a member that has to be there -/
def required {α : Type} (key : String) (read : Value → Reading α) (ms : Members) : Reading α :=
  under (.name key) (match ms.get? key with
    | some v => read v
    | none => refuse .missing)

/-- a member that has a value also when it is absent -/
def optional {α : Type} (key : String) (absent : α) (read : Value → Reading α) (ms : Members) : Reading α :=
  match ms.get? key with
  | some v => under (.name key) (read v)
  | none => .ok absent

/-- no members but the known ones -/
def onlyKnown (known : List String) (ms : Members) : Reading Unit :=
  match ms.filter fun m => !known.any fun k => m.1 = Wide.ofString k with
  | [] => .ok ()
  | unknown => .error (unknown.map fun m => ⟨[.name m.1], .unknownKey⟩)

/-- read the members of an object as a record -/
def record {α : Type} (shape : Shape) (read : Members → Reading α) : Value → Reading α
  | .object ms => read ms
  | _ => refuse (.notRecord shape)

end Pagewright.Check
