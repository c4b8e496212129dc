/-
Structured data: what a request body, a settings file and a stored record hold. An object keeps the order in which its
keys first came, and holds each key once.
-/
import Pagewright.Number.Binary64
import Pagewright.Text.Wide

namespace Pagewright.Json

open Text (Wide)

/-- a structured value; `moment` is a date, a time or both, kept as written -/
inductive Value where
  | null
  | bool (b : Bool)
  | int (n : Int)
  | float (x : Number.Binary64)
  | text (s : Wide)
  | moment (s : String)
  | array (items : List Value)
  | object (members : List (Wide × Value))
  deriving Repr, Inhabited

/-- the members of an object, in order -/
abbrev Members := List (Wide × Value)

def Members.get? (ms : Members) (key : Wide) : Option Value :=
  ms.lookup key

/-- give a key a value: in place if the key is there, else at the end -/
def Members.put (ms : Members) (key : Wide) (v : Value) : Members :=
  match ms with
  | [] => [(key, v)]
  | m :: rest => if m.1 = key then (key, v) :: rest else m :: Members.put rest key v

/-- `ms` overridden by `others`, key by key -/
def Members.overlay (ms others : Members) : Members :=
  others.foldl (fun acc m => acc.put m.1 m.2) ms

abbrev Value.ofString (s : String) : Value := .text s

def Value.ofOption (v : Option Value) : Value :=
  v.getD .null

mutual

/-- whether a text or a key in a value holds a half -/
def Value.hasHalf : Value → Bool
  | .text w => w.hasHalf
  | .array vs => itemsHaveHalf vs
  | .object ms => membersHaveHalf ms
  | _ => false

def itemsHaveHalf : List Value → Bool
  | [] => false
  | v :: vs => v.hasHalf || itemsHaveHalf vs

def membersHaveHalf : List (Wide × Value) → Bool
  | [] => false
  | (k, v) :: ms => k.hasHalf || v.hasHalf || membersHaveHalf ms

end

theorem Members.get?_put (ms : Members) (key : Wide) (v : Value) (k : Wide) :
    (ms.put key v).get? k = if k = key then some v else ms.get? k := by
  induction ms with
  | nil =>
    by_cases h : k = key
    · simp [Members.put, Members.get?, h]
    · simp [Members.put, Members.get?, List.lookup_cons, h, beq_eq_false_iff_ne.2 h]
  | cons m rest ih =>
    obtain ⟨name, w⟩ := m
    simp only [Members.get?] at ih
    by_cases hm : name = key
    · by_cases h : k = key
      · simp [Members.put, Members.get?, hm, h]
      · simp [Members.put, Members.get?, List.lookup_cons, hm, h, beq_eq_false_iff_ne.2 h]
    · by_cases hk : k = name
      · subst hk
        simp [Members.put, Members.get?, hm]
      · simp [Members.put, Members.get?, List.lookup_cons, hm, ih, beq_eq_false_iff_ne.2 hk]

end Pagewright.Json
