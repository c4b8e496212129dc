/-
From source text to tokens. Blanks, byte-order marks and comments that run from `//` to the end of the line separate
tokens. A word is as long as it can be, and so is a number, which has at most one point. In a text literal a backslash
before a quote stands for the quote, and any other backslash for itself.

`tokenize` gives the tokens up to and including the end of the source, or the first place that no token and no comment
starts at. The scanner of a `Session` can also be driven step by step.
-/
import Pagewright.Name
import Pagewright.Text.Blank
import Pagewright.Token
import Pagewright.Token.Cursor

namespace Pagewright

/-- the byte-order mark, which separates tokens like a blank -/
def byteOrderMark : Char := Char.ofNat 0xFEFF

inductive LexFault where
  | unexpected
  | unterminated
  deriving DecidableEq, Repr

/-- a place in a source that no token starts at: the character there, its line and column, and what is wrong -/
structure LexError where
  fault : LexFault
  char : String
  line : Int
  column : Int
  deriving DecidableEq, Repr

namespace LexError

def message (e : LexError) : String :=
  match e.fault with
  | .unexpected => "Unexpected character: " ++ Text.quoted e.char
  | .unterminated => "Unterminated string literal"

def location (e : LexError) (file : Option String) : Location := ⟨e.line, e.column, file⟩

/-- the place, and below it what is wrong -/
def report (e : LexError) (file : Option String) : String :=
  (e.location file).text ++ "\n" ++ e.message

end LexError

namespace Lexer

def isSeparator (c : Char) : Bool := Text.isBlank c || c = byteOrderMark

/-- how many characters of separators and comments a text starts with; `comment` says that a comment is open -/
def gapLength (comment : Bool) : List Char → Nat
  | [] => 0
  | c :: r =>
    if comment then 1 + gapLength (c ≠ '\n') r
    else if isSeparator c then 1 + gapLength false r
    else if c = '/' && r.head? = some '/' then 1 + gapLength true r
    else 0

/-- how many characters of a number a text starts with; `point` says that a point has been passed -/
def numberLength (point : Bool) : List Char → Nat
  | [] => 0
  | c :: r =>
    if c.isDigit then 1 + numberLength point r
    else if c = '.' && !point then 1 + numberLength true r
    else 0

/-- what a text literal stands for, how many characters it has before its closing quote, and whether it has one -/
structure TextLiteral where
  value : List Char
  length : Nat
  closed : Bool
  deriving DecidableEq, Repr

/-- read a text literal after its opening quote -/
def literal : List Char → TextLiteral
  | [] => ⟨[], 0, false⟩
  | '"' :: _ => ⟨[], 0, true⟩
  | '\\' :: '"' :: r => let l := literal r; ⟨'"' :: l.value, l.length + 2, l.closed⟩
  | c :: r => let l := literal r; ⟨c :: l.value, l.length + 1, l.closed⟩

/-- what stands at a place: a token with its text and the number of characters after its first one, or a fault -/
inductive Lexeme where
  | token (kind : Kind) (value : List Char) (more : Nat)
  | fault (f : LexFault)
  deriving DecidableEq, Repr

/-- the lexeme that starts with `c` and goes on in `r` -/
def lexeme (c : Char) (r : List Char) : Lexeme :=
  match Kind.marks.lookup c with
  | some k => .token k [c] 0
  | none =>
    if c = '"' then
      let l := literal r
      if l.closed then .token .text l.value (l.length + 1) else .fault .unterminated
    else if c.isDigit then
      let n := numberLength false r
      .token .number (c :: r.take n) n
    else if Name.isStart c then
      let w := r.takeWhile Name.isPart
      .token (Kind.ofWord (String.ofList (c :: w))) (c :: w) w.length
    else .fault .unexpected

def skipGaps (c : Cursor) : Cursor :=
  c.advanceBy (gapLength false c.ahead)

/-- pass the digits and at most one point at the cursor -/
def readNumber (c : Cursor) : String × Cursor :=
  let n := numberLength false c.ahead
  (String.ofList (c.ahead.take n), c.advanceBy n)

/-- pass the name characters at the cursor -/
def readWord (c : Cursor) : String × Cursor :=
  let w := c.ahead.takeWhile Name.isPart
  (String.ofList w, c.advanceBy w.length)

/-- an open text literal, reported at its opening quote -/
def unterminatedAt (c : Cursor) : LexError := ⟨.unterminated, "\"", c.line, c.column⟩

/-- pass one character, taken for an opening quote, and a text literal; when it has no end, the rest of the text -/
def readText (c : Cursor) : Except LexError String × Cursor :=
  let l := literal c.advance.ahead
  if l.closed then (.ok (String.ofList l.value), c.advance.advanceBy (l.length + 1))
  else (.error (unterminatedAt c), c.advance.advanceBy l.length)

/-- the error of a fault at the cursor, and the cursor it leaves: an open text literal has been read to the end -/
def faultAt (c : Cursor) (ch : Char) (f : LexFault) : LexError × Cursor :=
  match f with
  | .unexpected => (⟨.unexpected, ch.toString, c.line, c.column⟩, c)
  | .unterminated => (unterminatedAt c, c.advanceBy c.ahead.length)

/-- the tokens read, the cursor after them, and the error reading stopped at, if any -/
structure Scan where
  tokens : List Token
  cursor : Cursor
  error : Option LexError

def Scan.cons (t : Token) (s : Scan) : Scan := { s with tokens := t :: s.tokens }

theorem length_skipGaps_le (c : Cursor) : (skipGaps c).ahead.length ≤ c.ahead.length := by
  simp [skipGaps, Cursor.ahead_advanceBy]

/-- read tokens from the cursor to the end of the text -/
def scan (c : Cursor) : Scan :=
  let d := skipGaps c
  match _h : d.ahead with
  | [] => ⟨[⟨.finish, "", d.line, d.column⟩], d, none⟩
  | ch :: r =>
    match lexeme ch r with
    | .token k v more => (scan (d.advanceBy (more + 1))).cons ⟨k, String.ofList v, d.line, d.column⟩
    | .fault f => let (e, d') := faultAt d ch f; ⟨[], d', some e⟩
termination_by c.ahead.length
decreasing_by
  have hd : (skipGaps c).ahead.length ≤ c.ahead.length := length_skipGaps_le c
  have hr : (skipGaps c).ahead.length = r.length + 1 := by rw [_h]; rfl
  simp only [Cursor.ahead_advanceBy, List.length_drop]
  omega

end Lexer

/-- the tokens of a source, the end of the source last -/
def tokenize (source : String) : Except LexError (List Token) :=
  let s := Lexer.scan (Cursor.start source.toList)
  match s.error with
  | some e => .error e
  | none => .ok s.tokens

end Pagewright
