/-
Documents in TOML. A document is a sequence of statements, one per line: a key with its value, the head of a table, or
the head of one more table in an array. `parse` gives the table of the whole document.

The reader calls itself for each bracket that a value opens, so how deep values may nest depends on the stack. This is a
parameter, `Room`, which is asked at each opening bracket.
-/
import Pagewright.Toml.Scalar
import Pagewright.Toml.Table

namespace Pagewright.Toml

open Json (Value Members)

/-- a bracket that a value opens: of an array, or of a table that is written as one value -/
inductive Bracket where
  | array
  | table
  deriving DecidableEq, Repr

/-- whether there is room to read on behind an opening bracket, by the brackets that are open, the new one first, and what
follows in the document -/
abbrev Room := List Bracket → List Char → Bool

/-- a result, or nothing can be read here -/
def orRefuse {α : Type} : Option α → Except Fault α
  | some a => .ok a
  | none => refuse

section

variable (room : Room)

mutual

/-- a value, within brackets that are open -/
def value (opened : List Bracket) (fuel : Nat) (s : List Char) : Except Fault (Value × List Char) :=
  match fuel with
  | 0 => refuse
  | fuel + 1 =>
    match s with
    | [] => refuse
    | c :: r =>
      if c = '"' then
        if "\"\"\"".toList.isPrefixOf s then (longText '"' (s.drop 3)).map fun p => (.text p.1, p.2)
        else (lineText r).map fun p => (.text p.1, p.2)
      else if c = '\'' then
        if "'''".toList.isPrefixOf s then (longText '\'' (s.drop 3)).map fun p => (.text p.1, p.2)
        else (literalText r).map fun p => (.text p.1, p.2)
      else if "true".toList.isPrefixOf s then .ok (.bool true, s.drop 4)
      else if "false".toList.isPrefixOf s then .ok (.bool false, s.drop 5)
      else if c = '[' then
        if room (.array :: opened) r then do
          let t ← skipLines (r.length + 1) r
          match t with
          | ']' :: u => pure (.array [], u)
          | _ => items (.array :: opened) fuel t []
        else .error .tooDeep
      else if c = '\x7b' then
        if room (.table :: opened) r then
          match skipGap r with
          | '\x7d' :: u => .ok (.object [], u)
          | t => members (.table :: opened) fuel t [] []
        else .error .tooDeep
      else scalar s

/-- the items of an array up to its end; `read` is what was read so far -/
def items (opened : List Bracket) (fuel : Nat) (s : List Char) (read : List Value) : Except Fault (Value × List Char) :=
  match fuel with
  | 0 => refuse
  | fuel + 1 => do
    let (v, r) ← value opened fuel s
    let read := read ++ [v]
    let t ← skipLines (r.length + 1) r
    match t with
    | ']' :: u => pure (.array read, u)
    | ',' :: u => do
      let w ← skipLines (u.length + 1) u
      match w with
      | ']' :: x => pure (.array read, x)
      | _ => items opened fuel w read
    | _ => refuse

/-- the members of a table that is written as one value -/
def members (opened : List Bracket) (fuel : Nat) (s : List Char) (read : Members) (marks : Marks) :
    Except Fault (Value × List Char) :=
  match fuel with
  | 0 => refuse
  | fuel + 1 => do
    let ((path, v), r) ← pair opened fuel s
    if marks.isClosed path then refuse
    else do
      let read ← orRefuse (insertAt false path v read)
      match skipGap r with
      | '\x7d' :: u => pure (.object read, u)
      | ',' :: u => members opened fuel (skipGap u) read (if isCompound v then (path, .closed) :: marks else marks)
      | _ => refuse

def pair (opened : List Bracket) (fuel : Nat) (s : List Char) : Except Fault ((KeyPath × Value) × List Char) :=
  match fuel with
  | 0 => refuse
  | fuel + 1 => do
    let (path, r) ← key (s.length + 1) s
    match r with
    | '=' :: t => do
      let (v, u) ← value opened fuel (skipGap t)
      pure ((path, v), u)
    | _ => refuse

end

end

/-- a document while it is read: its table, the marks on its paths, marks that count from the next head on, and the
path of the table that is open -/
structure Draft where
  table : Members
  marks : Marks
  pending : Marks
  header : KeyPath

/-- the proper beginnings of a path that are not empty -/
def beginnings (path : KeyPath) : List KeyPath := (List.range path.length).tail.map path.take

/-- a key and its value in the open table -/
def addPair (d : Draft) (path : KeyPath) (v : Value) : Except Fault Draft := do
  let opened := (beginnings path).map (d.header ++ ·)
  if opened.any d.marks.isOpened then refuse
  else if d.marks.isClosed (d.header ++ path.dropLast) then refuse
  else do
    let table ← orRefuse (insertAt true (d.header ++ path) v d.table)
    pure { d with
      table := table
      pending := d.pending ++ opened.map (·, .opened)
      marks := if isCompound v then (d.header ++ path, .closed) :: d.marks else d.marks }

def openTable (d : Draft) (path : KeyPath) : Except Fault Draft := do
  if d.marks.isOpened path || d.marks.isClosed path then refuse
  else do
    let table ← orRefuse (updateAt true some path d.table)
    pure { d with table := table, marks := (path, .opened) :: d.marks, header := path }

/-- the head of one more table in an array -/
def openItem (d : Draft) (path : KeyPath) : Except Fault Draft := do
  if d.marks.isClosed path then refuse
  else
    match path.getLast? with
    | none => refuse
    | some k => do
      let table ← orRefuse (updateAt true (appendTable k) path.dropLast d.table)
      pure { d with table := table, marks := (path, .opened) :: d.marks.forget path, header := path }

/-- marks that were waiting count from now on -/
def settle (d : Draft) : Draft := { d with marks := d.pending ++ d.marks, pending := [] }

/-- a text that has to stand here -/
def expectText (part : String) (s : List Char) : Except Fault (List Char) :=
  if part.toList.isPrefixOf s then .ok (s.drop part.length) else refuse

/-- one statement, which starts with a character that is no blank, and the blanks after it -/
def statement (room : Room) (d : Draft) (c : Char) (s : List Char) : Except Fault (Draft × List Char) :=
  if startsKey c then do
    let ((path, v), r) ← pair room [] (2 * s.length + 2) s
    let d ← addPair d path v
    pure (d, skipGap r)
  else if c = '[' then
    if "[[".toList.isPrefixOf s then do
      let (path, r) ← key (s.length + 1) (skipGap (s.drop 2))
      let d ← openItem (settle d) path
      let t ← expectText "]]" r
      pure (d, skipGap t)
    else do
      let (path, r) ← key (s.length + 1) (skipGap (s.drop 1))
      let d ← openTable (settle d) path
      let t ← expectText "]" r
      pure (d, skipGap t)
  else if c = '#' then .ok (d, s)
  else refuse

def statements (room : Room) (fuel : Nat) (d : Draft) (s : List Char) : Except Fault Members :=
  match fuel with
  | 0 => refuse
  | fuel + 1 =>
    match skipGap s with
    | [] => .ok d.table
    | '\n' :: r => statements room fuel d r
    | c :: r => do
      let (d, t) ← statement room d c (c :: r)
      let u ← skipComment t
      match u with
      | [] => pure d.table
      | '\n' :: w => statements room fuel d w
      | _ => refuse

/-- a carriage return before a line end counts for nothing -/
def joinLineEnds : List Char → List Char
  | [] => []
  | '\r' :: '\n' :: r => '\n' :: joinLineEnds r
  | c :: r => c :: joinLineEnds r

def parse (room : Room) (s : String) : Except Fault Members :=
  let text := joinLineEnds s.toList
  statements room (text.length + 1) ⟨[], [], [], []⟩ text

end Pagewright.Toml
