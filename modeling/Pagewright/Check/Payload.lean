/-
Reading drafts and patches from data. In a patch an explicit null is refused first, for what a record cannot be without.
-/
import Pagewright.Check.Tree
import Pagewright.Store.Record

namespace Pagewright.Check

open Json (Value Members)
open Reading
open Store (AppDraft AppPatch EntryDraft EntryPatch)

def appDraft : Value → Reading AppDraft :=
  record .appCreate fun ms =>
    (((required "name" nonEmptyText ms).into AppDraft.mk).andAlso (optional "description" none wideOrNull ms)).andAlso
      (required "code" wide ms)

def entryDraft : Value → Reading EntryDraft :=
  record .dataCreate fun ms =>
    (((required "app_id" int ms).into EntryDraft.mk).andAlso (required "model_name" nonEmptyText ms)).andAlso
      (required "data" object ms)

/-- no null under any of the keys; the first is reported, and the rest is not looked at -/
def refuseNulls (keys : List String) (ms : Members) : Reading Unit :=
  match keys.find? fun k : String => match ms.get? k with
    | some .null => true
    | _ => false with
  | some k => refuse (.refused (k ++ " may be omitted but not null"))
  | none => .ok ()

def present {α : Type} (key : String) (read : Value → Reading α) (ms : Members) : Reading (Option α) :=
  optional key none (fun v => (read v).map some) ms

/-- a change of a saved application -/
def appPatch : Value → Reading AppPatch :=
  record .appUpdate fun ms => do
    refuseNulls ["name", "code"] ms
    (((present "name" nonEmptyText ms).into AppPatch.mk).andAlso (present "description" wideOrNull ms)).andAlso
      (present "code" wide ms)

def entryPatch : Value → Reading EntryPatch :=
  record .dataUpdate fun ms => do
    refuseNulls ["model_name", "data"] ms
    ((present "model_name" nonEmptyText ms).into EntryPatch.mk).andAlso (present "data" object ms)

end Pagewright.Check
