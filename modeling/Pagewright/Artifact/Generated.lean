/-
What generating gives: a result, or the fault it stopped at, and the warnings given on the way, which are kept in both
cases. A fault is a reference that leads nowhere, or a default that has too many digits to be written.
-/
import Pagewright.Json.Writer
import Pagewright.Log.Event
import Pagewright.Reference

namespace Pagewright

inductive GenerationFault where
  | reference (r : UnknownReference)
  | numeral
  deriving DecidableEq, Repr

/-- whether the default of a field can be written -/
def Field.isWritable (f : Field) : Bool := (f.default.map Literal.toValue).all Json.Value.isWritable

/-- warnings in the order they were given, and a result or an error -/
structure Generated (α : Type) where
  warnings : List String
  result : Except GenerationFault α

namespace Generated

def done {α : Type} (a : α) : Generated α := ⟨[], .ok a⟩

/-- go on with a result; the warnings come one after the other -/
def andThen {α β : Type} (g : Generated α) (f : α → Generated β) : Generated β :=
  match g.result with
  | .ok a => ⟨g.warnings ++ (f a).warnings, (f a).result⟩
  | .error e => ⟨g.warnings, .error e⟩

instance : Monad Generated where
  pure := done
  bind := andThen

def warn (message : String) : Generated Unit := ⟨[message], .ok ()⟩

def warnUnless (isWell : Bool) (message : String) : Generated Unit := ⟨if isWell then [] else [message], .ok ()⟩

/-- what was looked up, with nothing to warn about -/
def resolved {α : Type} (r : Except UnknownReference α) : Generated α := ⟨[], r.mapError .reference⟩

/-- go on only if what is to be written can be -/
def require (isWritable : Bool) : Generated Unit := ⟨[], if isWritable then .ok () else .error .numeral⟩

/-- generate from every item in turn -/
def each {α β : Type} (f : α → Generated β) : List α → Generated (List β)
  | [] => done []
  | a :: as => do
    let b ← f a
    let bs ← each f as
    pure (b :: bs)

end Generated

def warningEvent (message : String) : Log.Event := ⟨.warning, .generation, message⟩

end Pagewright
