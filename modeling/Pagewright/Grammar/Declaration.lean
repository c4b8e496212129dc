/-
The grammar of declarations.

    app      ::= (model | binding | page)* end
    model    ::= "model" name "{" field* "}"
    field    ::= "field" name ":" name modifier* ";"
    modifier ::= "required" | "default" "=" literal
    binding  ::= ("form" | "list" | "view") name "(" name ")" "{" names "}"
    page     ::= "page" name "(" text ")" "{" names "}"
    names    ::= (name ("," name)*)?

Lenient reading also skips any token that starts no declaration at the top level, no field in a model, and any other
identifier among the modifiers of a field.
-/
import Pagewright.Grammar
import Pagewright.Number.Numeral
import Pagewright.Token.Lexer

namespace Pagewright.Grammar

open Pagewright.Grammar.Parser

/-- the value of a number token: an integer unless it has a point -/
def numeral? (s : String) : Option Literal :=
  if s.toList.contains '.' then (Number.readNumber? s.toList).map .float else (Number.readInt? s.toList).map .int

def truth? (s : String) : Option Bool :=
  if s = "true" then some true else if s = "false" then some false else none

def literal : Parser Literal := do
  let t ← current
  match t.kind with
  | .text => do
    let _ ← advance
    pure (.text t.value)
  | .number => do
    let _ ← advance
    match numeral? t.value with
    | some l => pure l
    | none => fail .numeral
  | .identifier =>
    match truth? t.value with
    | some b => do
      let _ ← advance
      pure (.bool b)
    | none => mismatch "literal"
  | _ => mismatch "literal"

/-- what may follow the type of a field; a skipped token counts for nothing -/
inductive Modifier where
  | required
  | default (l : Literal)
  | skipped
  deriving DecidableEq, Repr

/-- one modifier, or nothing when no identifier is at hand -/
def modifier (o : Options) : Parser (Option Modifier) := do
  let t ← current
  if t.kind = .identifier then
    if t.value = "required" then do
      let _ ← advance
      pure (some .required)
    else if t.value = "default" then do
      let _ ← advance
      let _ ← expect .equals
      let l ← literal
      pure (some (.default l))
    else do
      passOver o "'required', 'default' or ';'"
      pure (some .skipped)
  else pure none

def Modifier.anyRequired (ms : List Modifier) : Bool := ms.contains .required

def Modifier.default? : Modifier → Option Literal
  | .default l => some l
  | _ => none

def Modifier.lastDefault? (ms : List Modifier) : Option Literal := (ms.filterMap Modifier.default?).getLast?

/-- what is expected when the type of a field has to be a known one -/
def typeExpectation : String := "field type (text, number, boolean, date)"

/-- the error of a field type that is not known -/
def typeMismatch (t : Token) : ParseError :=
  ⟨typeExpectation, t.kind.describe, Text.quoted t.value, t.line, t.column⟩

def field (o : Options) : Parser Field := do
  let _ ← expect .field
  let name ← nameToken
  let _ ← expect .colon
  let type ← nameToken
  if o.strictTypes && (FieldKind.ofName? type.value).isNone then fail (.mismatch (typeMismatch type))
  else do
    let ms ← many (modifier o)
    let _ ← expect .semicolon
    let f : Field := ⟨name.value, type.value, Modifier.anyRequired ms, Modifier.lastDefault? ms⟩
    checked f.issues f

/-- one part of the body of a model: a field or a skipped token, or nothing at its end -/
def modelPart (o : Options) : Parser (Option (Option Field)) := do
  let t ← current
  match t.kind with
  | .rightBrace => pure none
  | .finish => mismatch Kind.rightBrace.describe
  | .field => do
    let f ← field o
    pure (some (some f))
  | _ => do
    passOver o (Kind.field.describe ++ " or " ++ Kind.rightBrace.describe)
    pure (some none)

def model (o : Options) : Parser Model := do
  let _ ← expect .model
  let name ← nameToken
  let _ ← expect .leftBrace
  let parts ← many (modelPart o)
  let _ ← expect .rightBrace
  let m : Model := ⟨name.value, parts.filterMap id⟩
  checked m.issues m

/-- one more name, after a comma -/
def nextName : Parser (Option String) := do
  if ← sees [.comma] then do
    let _ ← advance
    let t ← nameToken
    pure (some t.value)
  else pure none

/-- names between commas, possibly none -/
def nameList : Parser (List String) := do
  let t ← current
  if t.kind.isName then do
    let first ← nameToken
    let rest ← many nextName
    pure (first.value :: rest)
  else pure []

def bindingKind? : Kind → Option BindingKind
  | .form => some .form
  | .list => some .list
  | .view => some .view
  | _ => none

/-- a form, list or view; the first token is passed before it is looked at -/
def binding : Parser Component := do
  let t ← advance
  match bindingKind? t.kind with
  | none => fail .noBindingKind
  | some kind => do
    let name ← nameToken
    let _ ← expect .leftParen
    let model ← nameToken
    let _ ← expect .rightParen
    let _ ← expect .leftBrace
    let fields ← nameList
    let _ ← expect .rightBrace
    let b : Binding := ⟨name.value, model.value, fields⟩
    checked b.issues ⟨kind, b⟩

def page : Parser Page := do
  let _ ← expect .page
  let name ← nameToken
  let _ ← expect .leftParen
  let title ← expect .text
  let _ ← expect .rightParen
  let _ ← expect .leftBrace
  let components ← nameList
  let _ ← expect .rightBrace
  let p : Page := ⟨name.value, title.value, components⟩
  checked p.issues p

/-- a declaration, or a skipped token -/
inductive Declaration where
  | model (m : Model)
  | component (c : Component)
  | page (p : Page)
  | skipped
  deriving DecidableEq, Repr

namespace Declaration

def model? : Declaration → Option Model
  | .model m => some m
  | _ => none

def binding? (k : BindingKind) : Declaration → Option Binding
  | .component c => if c.kind = k then some c.binding else none
  | _ => none

def page? : Declaration → Option Page
  | .page p => some p
  | _ => none

end Declaration

/-- declarations sorted by kind, each kind in source order -/
def appOf (ds : List Declaration) : App :=
  { models := ds.filterMap Declaration.model?
    forms := ds.filterMap (Declaration.binding? .form)
    views := ds.filterMap (Declaration.binding? .view)
    lists := ds.filterMap (Declaration.binding? .list)
    pages := ds.filterMap Declaration.page? }

/-- one declaration, or nothing at the end -/
def declaration (o : Options) : Parser (Option Declaration) := do
  let t ← current
  match t.kind with
  | .finish => pure none
  | .model => do
    let m ← model o
    pure (some (.model m))
  | .form | .list | .view => do
    let c ← binding
    pure (some (.component c))
  | .page => do
    let p ← page
    pure (some (.page p))
  | _ => do
    passOver o "declaration"
    pure (some .skipped)

def app (o : Options) : Parser App := do
  let ds ← many (declaration o)
  let a := appOf ds
  note (.parsed a)
  pure a

end Pagewright.Grammar
