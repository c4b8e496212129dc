/-
The characters of TOML: blanks and comments, keys, and texts between quotes. Texts between single quotes stand for
themselves; between double quotes a backslash starts an escape. Three quotes enclose a text of several lines.
-/
import Pagewright.Json.Reader

namespace Pagewright.Toml

/-- why a document cannot be read: it is not TOML, it has an integer of too many digits, or there is no room to read on inside
its brackets -/
inductive Fault where
  | invalid
  | hugeInteger
  | tooDeep
  deriving DecidableEq, Repr

def refuse {α : Type} : Except Fault α := .error .invalid

/-- a blank within a line -/
def isGap (c : Char) : Bool := c = ' ' || c = '\t'

/-- a control character that may not stand in a comment or a text of one line -/
def isForbidden (c : Char) : Bool := (c.toNat < 32 && c ≠ '\t') || c.toNat = 127

/-- a control character that may not stand in a text of several lines -/
def isForbiddenInLines (c : Char) : Bool := isForbidden c && c ≠ '\n'

def skipGap (s : List Char) : List Char := s.dropWhile isGap

/-- pass a comment, if there is one, up to the end of its line -/
def skipComment : List Char → Except Fault (List Char)
  | '#' :: r =>
    if (r.takeWhile (· ≠ '\n')).any isForbidden then refuse else .ok (r.dropWhile (· ≠ '\n'))
  | s => .ok s

/-- pass blanks, line ends and comments -/
def skipLines (fuel : Nat) (s : List Char) : Except Fault (List Char) :=
  match fuel with
  | 0 => .ok s
  | fuel + 1 => do
    let t := s.dropWhile fun c => isGap c || c = '\n'
    let r ← skipComment t
    if r.length = s.length then .ok r else skipLines fuel r

/-- a character that may stand in a key without quotes -/
def isKeyPart (c : Char) : Bool := c.isAlphanum || c = '-' || c = '_'

def startsKey (c : Char) : Bool := isKeyPart c || c = '"' || c = '\''

/-- the character with a code point in hexadecimal, of exactly `width` digits -/
def codePoint (width : Nat) (s : List Char) : Except Fault (Char × List Char) :=
  let ds := s.take width
  if ds.length = width then
    match ds.mapM Json.hexValue? with
    | none => refuse
    | some vs =>
      let n := vs.foldl (fun acc v => 16 * acc + v) 0
      if n.isValidChar then .ok (Char.ofNat n, s.drop width) else refuse
  else refuse

/-- what a backslash and one character stand for -/
def shortEscape? (c : Char) : Option Char :=
  if c = 'b' then some '\x08'
  else if c = 't' then some '\t'
  else if c = 'n' then some '\n'
  else if c = 'f' then some '\x0c'
  else if c = 'r' then some '\r'
  else if c = '"' || c = '\\' then some c
  else none

/-- what follows a backslash at the end of a line: the blanks up to the next other character stand for nothing -/
def lineContinuation (s : List Char) : Except Fault (List Char) :=
  match skipGap s with
  | [] => .ok []
  | '\n' :: r => .ok (r.dropWhile fun c => isGap c || c = '\n')
  | _ => refuse

/-- an escape after its backslash: the characters it stands for -/
def escape (multiline : Bool) (s : List Char) : Except Fault (List Char × List Char) :=
  match s with
  | [] => refuse
  | c :: r =>
    if multiline && (isGap c || c = '\n') then do
      let t ← lineContinuation s
      pure ([], t)
    else if c = 'u' then do
      let (ch, t) ← codePoint 4 r
      pure ([ch], t)
    else if c = 'U' then do
      let (ch, t) ← codePoint 8 r
      pure ([ch], t)
    else
      match shortEscape? c with
      | some ch => .ok ([ch], r)
      | none => refuse

/-- a text between double quotes, after what opens it; `read` is what was read so far, last first -/
def basicText (multiline : Bool) (fuel : Nat) (s read : List Char) : Except Fault (List Char × List Char) :=
  match fuel with
  | 0 => refuse
  | fuel + 1 =>
    match s with
    | [] => refuse
    | '"' :: r =>
      if !multiline then .ok (read.reverse, r)
      else if "\"\"\"".toList.isPrefixOf s then .ok (read.reverse, s.drop 3)
      else basicText multiline fuel r ('"' :: read)
    | '\\' :: r => do
      let (cs, t) ← escape multiline r
      basicText multiline fuel t (cs.reverse ++ read)
    | c :: r =>
      if (if multiline then isForbiddenInLines c else isForbidden c) then refuse
      else basicText multiline fuel r (c :: read)

/-- a text between double quotes on one line -/
def lineText (s : List Char) : Except Fault (String × List Char) := do
  let (cs, r) ← basicText false (s.length + 1) s []
  pure (String.ofList cs, r)

/-- a text between single quotes on one line -/
def literalText (s : List Char) : Except Fault (String × List Char) :=
  let body := s.takeWhile (· ≠ '\'')
  if body.length = s.length || body.any isForbidden then refuse
  else .ok (String.ofList body, s.drop (body.length + 1))

/-- what stands before a text, and what follows it -/
def splitAtText (part : List Char) : List Char → Option (List Char × List Char)
  | [] => if part.isEmpty then some ([], []) else none
  | c :: r =>
    if part.isPrefixOf (c :: r) then some ([], (c :: r).drop part.length)
    else (splitAtText part r).map fun p => (c :: p.1, p.2)

/-- up to two more quotes directly after the closing ones belong to the text -/
def trailingQuotes (quote : Char) (s : List Char) : List Char :=
  (s.take 2).takeWhile (· = quote)

/-- a text of several lines, after what opens it; a line end that comes first is left out -/
def longText (quote : Char) (s : List Char) : Except Fault (String × List Char) := do
  let s := match s with
    | '\n' :: r => r
    | _ => s
  let (body, r) ← (
    if quote = '"' then basicText true (s.length + 1) s []
    else
      match splitAtText (List.replicate 3 quote) s with
      | some (body, r) => if body.any isForbiddenInLines then refuse else .ok (body, r)
      | none => refuse)
  let more := trailingQuotes quote r
  pure (String.ofList (body ++ more), r.drop more.length)

def keyPart (s : List Char) : Except Fault (String × List Char) :=
  match s with
  | [] => refuse
  | c :: r =>
    if isKeyPart c then .ok (String.ofList (s.takeWhile isKeyPart), s.dropWhile isKeyPart)
    else if c = '\'' then literalText r
    else if c = '"' then lineText r
    else refuse

/-- the parts of a key, with points between them, and the blanks after it -/
def key (fuel : Nat) (s : List Char) : Except Fault (List String × List Char) :=
  match fuel with
  | 0 => refuse
  | fuel + 1 => do
    let (part, r) ← keyPart s
    match skipGap r with
    | '.' :: t => do
      let (parts, u) ← key fuel (skipGap t)
      pure (part :: parts, u)
    | t => pure ([part], t)

end Pagewright.Toml
