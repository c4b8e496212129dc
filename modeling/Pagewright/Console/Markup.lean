/-
Text with tags for style. A tag stands in square brackets and starts with a small letter or one of three signs; a slash
closes the last tag, or the last of a style. The console shows no styles, so only the text between the tags is left, with
the emoji that it names. A backslash before a bracket takes away its meaning.
-/
import Pagewright.Console.Emoji
import Pagewright.Console.Host
import Pagewright.Console.Style

namespace Pagewright.Console

/-! ## Pieces -/

/-- a piece of a text: text to show, or a tag, by what stands in its brackets, and its position -/
inductive Piece where
  | text (s : List Char)
  | tag (body : List Char) (position : Nat)
  deriving DecidableEq, Repr

/-- text to show, unless there is none -/
def textPiece (s : List Char) : List Piece := if s.isEmpty then [] else [.text s]

def startsTag (c : Char) : Bool := c.isLower || c = '#' || c = '/' || c = '@'

/-- the inside of a tag, after its opening bracket -/
def tagBody (s : List Char) : Option (List Char) :=
  match s with
  | c :: _ =>
    let body := s.takeWhile fun d => d ≠ ']' && d ≠ '['
    if startsTag c && (s.drop body.length).head? = some ']' then some body else none
  | [] => none

/-- a text in pieces: `slashes` is the number of backslashes just passed, `passed` the text of the piece so far, last
first; of the backslashes before a tag each pair stands for one, and an odd one makes the tag text -/
def piecesAfter (slashes position : Nat) (passed s : List Char) : List Piece :=
  match s with
  | [] => textPiece (List.replicate slashes '\\' ++ passed).reverse
  | c :: r =>
    if c = '\\' then piecesAfter (slashes + 1) (position + 1) passed r
    else if c = '[' then
      match tagBody r with
      | some body =>
        textPiece passed.reverse ++ textPiece (List.replicate (slashes / 2) '\\') ++
          (if slashes % 2 = 1 then .text (['['] ++ body ++ [']']) else .tag body position) ::
          piecesAfter 0 (position + body.length + 2) [] (r.drop (body.length + 1))
      | none => piecesAfter 0 (position + 1) ('[' :: (List.replicate (slashes - 1) '\\' ++ passed)) r
    else piecesAfter 0 (position + 1) (c :: (List.replicate slashes '\\' ++ passed)) r
termination_by s.length
decreasing_by all_goals (simp only [List.length_cons, List.length_drop]; omega)

def piecesOf (s : List Char) : List Piece := piecesAfter 0 0 [] s

/-! ## Tags -/

/-- the open tags after the last one of a style is closed -/
def closeNamed (name : String) : List String → Option (List String)
  | [] => none
  | t :: ts => if t = name then some ts else (closeNamed name ts).map (t :: ·)

/-- the normal form of a style in a tag -/
def tagStyle (s : List Char) : Except MarkupFault String :=
  match styleName s with
  | .ok name => .ok name
  | .error _ => .error .numeral

/-- the open tags, last first, after a tag; what follows an equals sign in a tag is no part of its style -/
def applyTag (opened : List String) (body : List Char) (position : Nat) : Except MarkupFault (List String) :=
  match body.takeWhile (· ≠ '=') with
  | '/' :: name =>
    if Text.allBlank (String.ofList name) then
      match opened with
      | _ :: ts => .ok ts
      | [] => .error (.nothingOpen position)
    else
      match tagStyle name with
      | .error e => .error e
      | .ok style =>
        match closeNamed style opened with
        | some ts => .ok ts
        | none => .error (.notOpen (String.ofList (['['] ++ body ++ [']'])) position)
  | name => (tagStyle name).map (· :: opened)

/-! ## What is shown -/

/-- a control character that moves the cursor or rings -/
def isCursorControl (c : Char) : Bool := [7, 8, 11, 12, 13].contains c.toNat

/-- what the console shows of text without tags -/
def shownPiece (names : Emoji.Names) (s : List Char) : List Char := (Emoji.replaced names s).filter fun c => !isCursorControl c

/-- what the console shows of pieces, after the tags that are open, last first -/
def shownPieces (names : Emoji.Names) (opened : List String) : List Piece → Except MarkupFault (List Char)
  | [] => .ok []
  | .text s :: rest => (shownPieces names opened rest).map (shownPiece names s ++ ·)
  | .tag body position :: rest =>
    match applyTag opened body position with
    | .ok opened => shownPieces names opened rest
    | .error e => .error e

/-- what a console shows of a text with tags -/
def shownText (names : Emoji.Names) (s : String) : Except MarkupFault (List Char) :=
  shownPieces names [] (piecesOf s.toList)

end Pagewright.Console
