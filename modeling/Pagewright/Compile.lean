/-
From source text to artifacts. A compilation gives all of them or one error; the events report what happened on the way.
-/
import Pagewright.Artifact.Document
import Pagewright.Artifact.Script
import Pagewright.Artifact.Stylesheet
import Pagewright.Grammar.Declaration

namespace Pagewright

/-- why a source gives nothing -/
inductive Failure where
  | lex (e : LexError)
  | grammar (f : Grammar.Fault)
  | generation (e : GenerationFault)
  deriving DecidableEq, Repr

def tokenizedEvent (count : Nat) (file : Option String) : Log.Event :=
  ⟨.debug, .tokens, "Tokenized " ++ toString count ++ " tokens from " ++ file.getD "<source>"⟩

/-- the tokens of a source, and what is reported -/
def readTokens (file : Option String) (source : String) : Except LexError (List Token) × List Log.Event :=
  match tokenize source with
  | .ok ts => (.ok ts, [tokenizedEvent ts.length file])
  | .error e => (.error e, [])

/-- the application that a source declares, and what is reported -/
def readApp (o : Options) (file : Option String) (source : String) : Except Failure App × List Log.Event :=
  match readTokens file source with
  | (.error e, events) => (.error (.lex e), events)
  | (.ok ts, events) =>
    match Grammar.app o (Grammar.Session.start ts) with
    | (.ok a, s) => (.ok a, events ++ s.notes.map Grammar.Note.event)
    | (.error f, s) => (.error (.grammar f), events ++ s.notes.map Grammar.Note.event)

/-- texts without repetition, each where it came first -/
def firstOccurrences (texts : List String) : List String :=
  texts.foldl (fun acc t => if acc.contains t then acc else acc ++ [t]) []

/-- markup and script of an application, and the stylesheet -/
def App.generate (a : App) (o : Options) : Generated (String × String) := do
  let markup ← a.markup o
  let script ← a.script o
  pure (markup, script)

/-- the event that artifacts were made; lengths are in characters -/
def generatedEvent (r : Artifacts) : Log.Event :=
  ⟨.debug, .compilation, "Generated " ++ toString r.markup.length ++ " bytes of markup, " ++
    toString r.script.length ++ " of script, " ++ toString r.stylesheet.length ++ " of stylesheet"⟩

/-- the artifacts of an application, and what is reported; a warning that is given twice counts once -/
def compileApp (o : Options) (a : App) : Except GenerationFault Artifacts × List Log.Event :=
  let g := a.generate o
  let warned := g.warnings.map warningEvent
  match g.result with
  | .error e => (.error e, warned)
  | .ok (markup, script) =>
    let r : Artifacts := ⟨markup, script, Stylesheet.text, firstOccurrences g.warnings⟩
    (.ok r, warned ++ [generatedEvent r])

/-- the artifacts of a source, and what is reported -/
def compileSource (o : Options) (file : Option String) (source : String) :
    Except Failure Artifacts × List Log.Event :=
  match readApp o file source with
  | (.error f, events) => (.error f, events)
  | (.ok a, events) =>
    match compileApp o a with
    | (.error e, more) => (.error (.generation e), events ++ more)
    | (.ok r, more) => (.ok r, events ++ more)

end Pagewright
