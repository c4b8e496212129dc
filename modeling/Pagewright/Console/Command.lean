/-
The commands of the program. A command reads its source and its options, does its work, and leaves an exit code and what
it says on the two channels. Files go through a `Disk`, and all else that a command depends on through a `Host`, so that it
can be run on any.
-/
import Pagewright.App.Listing
import Pagewright.Compile
import Pagewright.Config
import Pagewright.Console.Arguments
import Pagewright.Console.Host
import Pagewright.Log.Sink
import Pagewright.Version

namespace Pagewright.Console

open Files (Disk FileError Path)
open Log (Event Setup)

/-- an error that a command does not report but ends with -/
inductive Escape where
  | notText
  | numeral
  | tooDeep
  | invalid (issues : List Check.Issue)
  | markup (e : MarkupFault)
  | unreachable (e : FileError)

/-- where the HTTP interface is to be found -/
structure Endpoint where
  host : String
  port : Int

/-- how a command ended and what it said -/
structure Outcome where
  status : Nat
  stdout : String
  stderr : String
  served : Option Endpoint
  escaped : Option Escape

namespace Outcome

def silent : Outcome := ⟨0, "", "", none, none⟩

/-- said on the first channel -/
def said (s : String) : Outcome := { silent with stdout := s }

/-- an error that was reported -/
def reported (s : String) : Outcome := { silent with status := 1, stderr := s }

/-- an error that was not -/
def escape (e : Escape) : Outcome := { silent with status := 1, escaped := some e }

/-- something said on the second channel before all else -/
def after (s : String) (o : Outcome) : Outcome := { o with stderr := s ++ o.stderr }

end Outcome

/-- how a command is run: where, how much is logged, and whether errors are shown with an excerpt -/
structure Manner where
  host : Host
  setup : Setup
  verbose : Bool

/-- the lines for events that are to be seen -/
def Manner.lines (w : Manner) (events : List Event) : String :=
  String.join ((events.filter fun e => w.setup.threshold ≤ e.severity.number && w.setup.level ≤ e.severity.number).map
    fun e => Text.escapedHalves ((e.record w.host.now).consoleLine w.host.coloured) ++ "\n")

def helpText : String :=
  Text.unlines
    ["SWeb CLI - Command Line Interface for SWeb",
      "",
      "Usage:",
      "  sweb [command] [options]",
      "",
      "Commands:",
      "  compile <file>            Compile a .sweb file to HTML, JS, and CSS",
      "  parse <file>              Parse a .sweb file and output its AST",
      "  serve                     Run the HTTP API",
      "  help                      Show this help message",
      "",
      "Options:",
      "  --out <directory>         Output directory for compiled files (default: ./dist)",
      "  --format <format>         Output format for parse command: json or text (default: text)",
      "  --config <path>           Compiler options file (default: sweb.toml beside the source)",
      "",
      "Examples:",
      "  sweb compile app.sweb --out ./dist",
      "  sweb parse app.sweb --format json",
      ""]

/-- a place with the lines of the source around it -/
def excerpt (c : Channel) (l : Location) (source : String) : String :=
  c.line (l.withExcerpt (excerptAround source l.line excerptRadius))

/-- an error of reading or compiling a source -/
def failureOutcome (w : Manner) (label : String) (file : Path) (source : String) : Failure → Outcome
  | .lex e =>
    .reported (w.host.err.line (label ++ ": " ++ e.report (some file.text)) ++
      (if w.verbose then excerpt w.host.err (e.location (some file.text)) source else ""))
  | .grammar (.mismatch e) =>
    .reported (w.host.err.line (label ++ ": " ++ e.report (some file.text)) ++
      (if w.verbose then excerpt w.host.err (e.location (some file.text)) source else ""))
  | .generation (.reference r) => .reported (w.host.err.line (label ++ ": " ++ r.message))
  | .grammar (.invalid issues) => .escape (.invalid issues)
  | .grammar _ => .escape .numeral
  | .generation .numeral => .escape .numeral

def configOutcome (h : Host) (label : String) (path : Path) (f : Config.Fault) : Outcome :=
  match f.message? path with
  | some s => .reported (h.err.line (label ++ ": " ++ s))
  | none => .escape (match f with
    | .notText => .notText
    | .unreachable e => .unreachable e
    | .tooDeep => .tooDeep
    | _ => .numeral)

section Running

variable {m : Type → Type} [Monad m]

/-- go on with the text of a source file -/
def withSource (d : Disk m) (h : Host) (file : Option Path) (action : String) (f : Path → String → m Outcome) :
    m Outcome := do
  match file with
  | none => pure (.reported (h.err.line ("No file specified for " ++ action ++ ".")))
  | some p =>
    match ← d.readText p with
    | .error (.unreadable e) => pure (.reported (h.err.line ("Cannot read " ++ p.text ++ ": " ++ e.message)))
    | .error .notText => pure (.escape .notText)
    | .ok s => f p s

/-- go on with the options for a source -/
def withOptions (d : Disk m) (h : Host) (label : String) (source : Path) (named : Option Path) (f : Options → m Outcome) :
    m Outcome := do
  match ← Config.discover h.config d source named with
  | .error (path, fault) => pure (configOutcome h label path fault)
  | .ok o => f o

/-- write files until one cannot be written -/
def writeAll (d : Disk m) : List (Path × String) → m (Except FileError Unit)
  | [] => pure (.ok ())
  | (p, s) :: rest => do
    match ← d.write p s with
    | .ok _ => writeAll d rest
    | .error e => pure (.error e)

/-- the files that a compilation leaves -/
def outputFiles (out : Path) (stem : String) (r : Artifacts) : List (Path × String) :=
  [(out.child (stem ++ ".html"), r.markup), (out.child (stem ++ ".js"), r.script),
    (out.child (stem ++ ".css"), r.stylesheet),
    (out.child "index.html", r.document (stem ++ " - SWeb Application"))]

/-- make the directory and write the files -/
def writeOutput (d : Disk m) (out : Path) (stem : String) (r : Artifacts) : m (Except FileError Unit) := do
  match ← d.ensureDirectories out with
  | .ok _ => writeAll d (outputFiles out stem r)
  | .error e => pure (.error e)

/-- texts with tags, one after the other, as a channel shows them; a text with a bad tag ends it -/
def shownTexts (c : Channel) : List String → String × Option MarkupFault
  | [] => ("", none)
  | s :: texts =>
    match c.tagged s with
    | .ok first =>
      let (others, fault) := shownTexts c texts
      (first ++ others, fault)
    | .error e => ("", some e)

/-- the end of a command that fails over a tag -/
def Outcome.badTag (e : MarkupFault) : Outcome := .escape (.markup e)

def warningTexts (warnings : List String) : List String := warnings.map ("[yellow]warning:[/yellow] " ++ ·)

/-- the texts that tell what was compiled and where it is -/
def successTexts (file out : Path) : List String :=
  ["[green]Successfully compiled[/green] " ++ file.text, "Output files written to " ++ out.text]

/-- the event that files were written -/
def wroteEvent (stem : String) : Event :=
  ⟨.debug, .console, "Wrote " ++ stem ++ ".html, " ++ stem ++ ".js, " ++ stem ++ ".css and index.html"⟩

/-- compile a source and write what comes of it -/
def runCompile (d : Disk m) (w : Manner) (file : Option Path) (out : Path) (config : Option Path) : m Outcome :=
  let label := "Compilation failed"
  withSource d w.host file "compilation" fun p source =>
    withOptions d w.host label p config fun o => do
      let (result, events) := compileSource o (some p.text) source
      match result with
      | .error f => pure ((failureOutcome w label p source f).after (w.lines events))
      | .ok r => do
        let (warned, fault) := shownTexts w.host.err (warningTexts r.warnings)
        let said := w.lines events ++ warned
        match fault with
        | some e => pure ((Outcome.badTag e).after said)
        | none =>
          match ← writeOutput d out p.stem r with
          | .error e =>
            pure (.reported (said ++ w.host.err.line (label ++ ": cannot write to " ++ out.text ++ ": " ++ e.message)))
          | .ok _ =>
            let (shown, fault) := shownTexts w.host.out (successTexts p out)
            let ended := match fault with
              | some e => Outcome.badTag e
              | none => .silent
            pure ({ ended with stdout := shown }.after (said ++ w.lines [wroteEvent p.stem]))

def formats : List String := ["text", "json"]

/-- read a source and show what it declares -/
def runParse (d : Disk m) (w : Manner) (file : Option Path) (format : String) (config : Option Path) :
    m Outcome :=
  let label := "Parsing failed"
  if !formats.contains format then
    pure (.reported (w.host.err.line ("Unknown format: " ++ format ++ " (expected text or json)")))
  else
    withSource d w.host file "parsing" fun p source =>
      withOptions d w.host label p config fun o => do
        let (result, events) := readApp o (some p.text) source
        match result with
        | .error f => pure ((failureOutcome w label p source f).after (w.lines events))
        | .ok a =>
          pure ((Outcome.said (w.host.out.line (if format = "json" then a.toValue.pretty else a.listing))).after
            (w.lines events))

/-- say where the HTTP interface is -/
def runServe (w : Manner) (host : String) (port : Int) : Outcome :=
  let event : Event := ⟨.info, .server, "Serving SWeb API on http://" ++ host ++ ":" ++ Json.intText port⟩
  { Outcome.silent with stderr := w.lines [event], served := some ⟨host, port⟩ }

def runCommand (d : Disk m) (w : Manner) : Command → m Outcome
  | .compile file out config => runCompile d w file out config
  | .parse file format config => runParse d w file format config
  | .serve host port => pure (runServe w host port)
  | .help => pure (.said (w.host.out.line helpText))

def run (d : Disk m) (h : Host) (args : List String) : m Outcome :=
  match requestOf args with
  | .version => pure (.said (h.out.line ("SWeb version " ++ Version.current) ++ h.out.line h.platform))
  | .usage => pure (.said (h.out.line helpText))
  | .misuse => pure { Outcome.silent with status := 2, stderr := h.err.line "Usage: sweb [command] [options]" }
  | .run verbose c =>
    let requested := if verbose then some (Log.Requested.number Log.Severity.debug.number) else none
    runCommand d ⟨h, ⟨Log.effectiveLevel requested h.levelName, none⟩, verbose⟩ c

end Running

end Pagewright.Console
