/-
Reading tokens one at a time. A `Session` is the tokens still ahead, the number of tokens passed and the notes taken on
the way. A `Parser` goes from session to session and gives a value or a `Fault`; the session it reached is kept in both
cases. There is one token of lookahead and no way back.

A token list ends with the token for the end of the source, which is never passed. Should a list end otherwise, its
last token stands for all that follow.
-/
import Pagewright.App
import Pagewright.Log.Event
import Pagewright.Options
import Pagewright.Token

namespace Pagewright

/-- a token that does not fit: what was expected, the kind of token found, how the message shows it, and its place -/
structure ParseError where
  expected : String
  found : String
  got : String
  line : Int
  column : Int
  deriving DecidableEq, Repr

namespace ParseError

def message (e : ParseError) : String := "Expected " ++ e.expected ++ ", got " ++ e.got

def location (e : ParseError) (file : Option String) : Location := ⟨e.line, e.column, file⟩

/-- the place, and below it what is wrong -/
def report (e : ParseError) (file : Option String) : String :=
  (e.location file).text ++ "\n" ++ e.message

end ParseError

namespace Grammar

inductive Fault where
  /-- a token does not fit -/
  | mismatch (e : ParseError)
  /-- there is no token at all -/
  | noToken
  /-- a binding does not start with its keyword -/
  | noBindingKind
  /-- a number token is no number, or an integer of too many digits -/
  | numeral
  /-- a token that should be a name is none -/
  | invalid (issues : List Check.Issue)
  /-- the tokens have no end, and everything ahead is skipped forever -/
  | endless
  deriving DecidableEq, Repr

inductive Note where
  | skipped (t : Token)
  | parsed (a : App)
  deriving DecidableEq, Repr

def Note.event : Note → Log.Event
  | .skipped t =>
    ⟨.warning, .recovery, "Skipping unexpected " ++ t.kind.describe ++ " " ++ Text.quoted t.value ++ " at line " ++
      toString t.line ++ ", column " ++ toString t.column⟩
  | .parsed a =>
    ⟨.debug, .tree, "Parsed " ++ toString a.models.length ++ " models, " ++ toString a.forms.length ++ " forms, " ++
      toString a.views.length ++ " views, " ++ toString a.lists.length ++ " lists, " ++ toString a.pages.length ++
      " pages"⟩

/-- the tokens ahead, the token that stands when none is ahead, how many tokens are passed, and the notes taken -/
structure Session where
  ahead : List Token
  last : Option Token
  position : Nat
  notes : List Note
  deriving DecidableEq, Repr

namespace Session

/-- the session before the first token -/
def start (ts : List Token) : Session := ⟨ts, ts.getLast?, 0, []⟩

def current? (s : Session) : Option Token := s.ahead.head? <|> s.last

def pass (s : Session) : Session := { s with ahead := s.ahead.drop 1, position := s.position + 1 }

/-- the session with one more note -/
def note (s : Session) (n : Note) : Session := { s with notes := s.notes ++ [n] }

end Session

/-- from a session to a value or a fault, and the session reached -/
def Parser (α : Type) : Type := Session → Except Fault α × Session

namespace Parser

/-- give a value and read nothing -/
def done {α : Type} (a : α) : Parser α := fun s => (.ok a, s)

/-- read on with what was given, unless there was a fault -/
def andThen {α β : Type} (p : Parser α) (f : α → Parser β) : Parser β := fun s =>
  match p s with
  | (.ok a, t) => f a t
  | (.error e, t) => (.error e, t)

instance : Monad Parser where
  pure := done
  bind := andThen

def fail {α : Type} (e : Fault) : Parser α := fun s => (.error e, s)

def note (n : Note) : Parser Unit := fun s => (.ok (), s.note n)

/-- repeat a step until it gives nothing, at most `n` times -/
def manyWithin {α : Type} (step : Parser (Option α)) : Nat → Parser (List α)
  | 0 => fail .endless
  | n + 1 => do
    match ← step with
    | none => pure []
    | some a => do
      let rest ← manyWithin step n
      pure (a :: rest)

/-- repeat a step that passes a token until it gives nothing -/
def many {α : Type} (step : Parser (Option α)) : Parser (List α) := fun s =>
  manyWithin step (s.ahead.length + 1) s

end Parser

open Pagewright.Grammar.Parser

def current : Parser Token := fun s =>
  match s.current? with
  | some t => (.ok t, s)
  | none => (.error .noToken, s)

/-- pass the token at hand, unless it is the end -/
def advance : Parser Token := fun s =>
  match s.current? with
  | some t => (.ok t, if t.kind = .finish then s else s.pass)
  | none => (.error .noToken, s)

/-- whether the token at hand is of one of the kinds -/
def sees (kinds : List Kind) : Parser Bool := do
  let t ← current
  pure (kinds.contains t.kind)

/-- the error of a token where something else was expected -/
def mismatchAt (t : Token) (expected : String) : ParseError :=
  ⟨expected, t.kind.describe, t.kind.describe, t.line, t.column⟩

def mismatch {α : Type} (expected : String) : Parser α := do
  let t ← current
  fail (.mismatch (mismatchAt t expected))

def expect (k : Kind) : Parser Token := do
  let t ← current
  if t.kind = k then advance else mismatch k.describe

/-- pass a token that may stand for a name -/
def nameToken : Parser Token := do
  let t ← current
  if t.kind.isName then advance else mismatch Kind.identifier.describe

/-- pass a token that starts nothing, with a note; an error unless reading is lenient -/
def passOver (o : Options) (expected : String) : Parser Unit := do
  if o.lenient then
    let t ← advance
    note (.skipped t)
  else mismatch expected

/-- give a value whose names have been checked -/
def checked {α : Type} (issues : List Check.Issue) (a : α) : Parser α :=
  if issues.isEmpty then pure a else fail (.invalid issues)

end Grammar

end Pagewright
