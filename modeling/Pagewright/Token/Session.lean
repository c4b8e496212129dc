/-
A lexer driven step by step. A `Session` is where the lexer is and the tokens it has read so far; every operation of the
lexer can be asked for at any place, also at one where no token starts, and an error leaves the lexer where it was found.
-/
import Pagewright.Token.Lexer

namespace Pagewright.Lexer

/-- a lexer at work: its place, and the tokens read so far -/
structure Session where
  cursor : Cursor
  tokens : List Token

inductive Operation where
  | advance
  | skipGaps
  | readText
  | readNumber
  | readWord
  | tokenize
  deriving DecidableEq, Repr

inductive Answer where
  | nothing
  | text (s : String)
  | tokens (ts : List Token)
  | error (e : LexError)
  deriving DecidableEq, Repr

namespace Session

def start (source : String) : Session := ⟨Cursor.start source.toList, []⟩

def moved (s : Session) (c : Cursor) : Session := { s with cursor := c }

/-- perform an operation; all the tokens read so far are given once the end of the source is among them -/
def perform (s : Session) : Operation → Answer × Session
  | .advance => (.nothing, s.moved s.cursor.advance)
  | .skipGaps => (.nothing, s.moved (skipGaps s.cursor))
  | .readText =>
    match Lexer.readText s.cursor with
    | (.ok t, c) => (.text t, s.moved c)
    | (.error e, c) => (.error e, s.moved c)
  | .readNumber => let (t, c) := Lexer.readNumber s.cursor; (.text t, s.moved c)
  | .readWord => let (t, c) := Lexer.readWord s.cursor; (.text t, s.moved c)
  | .tokenize =>
    let r := scan s.cursor
    let tokens := s.tokens ++ r.tokens
    match r.error with
    | some e => (.error e, ⟨r.cursor, tokens⟩)
    | none => (.tokens tokens, ⟨r.cursor, tokens⟩)

/-- the session after some operations on a source -/
def reached (source : String) (ops : List Operation) : Session :=
  ops.foldl (fun s op => (s.perform op).2) (start source)

end Session

end Pagewright.Lexer
