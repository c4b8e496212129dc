/-
A parser driven step by step. Every rule of the grammar, and every way to pass a single token, can be asked for at any
place of the tokens; a fault leaves the session where it was found, and the next operation goes on from there.
-/
import Pagewright.Grammar.Declaration

namespace Pagewright.Grammar

/-- what can be asked of a parser -/
inductive Operation where
  | advance
  | expect (k : Kind)
  | nameToken
  | passOver (expected : String)
  | literal
  | nameList
  | field
  | model
  | binding
  | page
  | app
  deriving DecidableEq, Repr

inductive Answer where
  | nothing
  | token (t : Token)
  | literal (l : Literal)
  | names (ns : List String)
  | field (f : Field)
  | model (m : Model)
  | component (c : Component)
  | page (p : Page)
  | app (a : App)
  deriving DecidableEq, Repr

def Operation.parser (o : Options) : Operation → Parser Answer
  | .advance => do
    let t ← Grammar.advance
    pure (.token t)
  | .expect k => do
    let t ← Grammar.expect k
    pure (.token t)
  | .nameToken => do
    let t ← Grammar.nameToken
    pure (.token t)
  | .passOver expected => do
    Grammar.passOver o expected
    pure .nothing
  | .literal => do
    let l ← Grammar.literal
    pure (.literal l)
  | .nameList => do
    let ns ← Grammar.nameList
    pure (.names ns)
  | .field => do
    let f ← Grammar.field o
    pure (.field f)
  | .model => do
    let m ← Grammar.model o
    pure (.model m)
  | .binding => do
    let c ← Grammar.binding
    pure (.component c)
  | .page => do
    let p ← Grammar.page
    pure (.page p)
  | .app => do
    let a ← Grammar.app o
    pure (.app a)

def Session.reached (o : Options) (ts : List Token) (ops : List Operation) : Session :=
  ops.foldl (fun s op => (op.parser o s).2) (Session.start ts)

end Pagewright.Grammar
