/-
What a compile command leaves on the disk. It reads the source and the options, which changes nothing, and writes four files
one after the other. A file that is written stays until its own name is written again (`read_writeAll`), and of the four
names only the first and the last can be the same. So every artifact is where it should be, except that the markup of a
source called `index` is lost to the document (`compile_leaves_artifacts`, `index_markup_is_lost`). An error in the options
or in the source leaves the disk as it was, and its message is told, on a terminal as it is.
-/
import Pagewright.Files.TextFile
import Pagewright.Files.Tree
import Pagewright.Proofs.Console.Excerpt
import Pagewright.Proofs.Files.Writing

namespace Pagewright

open Files

/-! ## Operations that only read -/

namespace Files.Tree

/-- an operation on a tree that leaves it as it is -/
def OnlyReads {α : Type} (x : StateM Tree α) : Prop := ∀ t, (x.run t).2 = t

theorem onlyReads_pure {α : Type} (a : α) : OnlyReads (pure a) := fun _ => rfl

theorem OnlyReads.bind {α β : Type} {x : StateM Tree α} {f : α → StateM Tree β} (hx : OnlyReads x)
    (hf : ∀ a, OnlyReads (f a)) : OnlyReads (x >>= f) := by
  intro t
  calc ((x >>= f).run t).2
    _ = ((f (x.run t).1).run (x.run t).2).2 := rfl
    _ = (x.run t).2 := hf _ _
    _ = t := hx t

/-- an operation that gives something goes on with it -/
theorem run_bind {α β : Type} {x : StateM Tree α} {t t' : Tree} {a : α} (h : x.run t = (a, t')) (f : α → StateM Tree β) :
    (x >>= f).run t = (f a).run t' := by
  calc (x >>= f).run t
    _ = (f (x.run t).1).run (x.run t).2 := rfl
    _ = (f a).run t' := by rw [h]

/-- a change that was made gave the tree after it -/
theorem eq_ok_of_run_changing {change : Tree → Except FileError Tree} {t t' : Tree}
    (h : (changing change).run t = (.ok (), t')) : change t = .ok t' := by
  have hget : (get : StateM Tree Tree).run t = (t, t) := rfl
  unfold changing at h
  rw [run_bind hget] at h
  cases hchange : change t with
  | error e =>
    rw [hchange] at h
    cases h
  | ok u =>
    rw [hchange] at h
    cases h
    rfl

def text (t : Tree) (p : Path) : Except TextFault String := ((disk.readText p).run t).1

/-- the options for a source in a tree, from the file that is named or the one beside the source -/
def options (t : Tree) (h : Config.Host) (source : Path) (named : Option Path) : Except (Path × Config.Fault) Options :=
  ((Config.discover h disk source named).run t).1

theorem onlyReads_readText (p : Path) : OnlyReads (disk.readText p) := by
  refine OnlyReads.bind (fun t => rfl) fun r => ?_
  cases r with
  | ok b => exact onlyReads_pure _
  | error e => exact onlyReads_pure _

theorem onlyReads_load (h : Config.Host) (p : Path) : OnlyReads (Config.load h disk p) := by
  refine OnlyReads.bind (fun t => rfl) fun r => ?_
  cases r with
  | ok b => exact onlyReads_pure _
  | error e => exact onlyReads_pure _

theorem onlyReads_discover (h : Config.Host) (source : Path) (named : Option Path) :
    OnlyReads (Config.discover h disk source named) := by
  have hload : ∀ path, OnlyReads (do return (← Config.load h disk path).mapError (path, ·)) := fun path =>
    (onlyReads_load h path).bind fun _ => onlyReads_pure _
  cases named with
  | some path => exact hload path
  | none =>
    refine OnlyReads.bind (fun t => rfl) fun r => ?_
    cases r with
    | error e => exact onlyReads_pure _
    | ok b =>
      cases b with
      | true => exact hload _
      | false => exact onlyReads_pure _

theorem run_readText (t : Tree) (p : Path) : (disk.readText p).run t = (t.text p, t) :=
  Prod.ext rfl (onlyReads_readText p t)

theorem run_discover (t : Tree) (h : Config.Host) (source : Path) (named : Option Path) :
    (Config.discover h disk source named).run t = (t.options h source named, t) :=
  Prod.ext rfl (onlyReads_discover h source named t)

end Files.Tree

namespace Console

variable {t t' : Tree}

/-! ## Writing files -/

/-- when all files are written the first one is, and then the others -/
theorem writeAll_cons {p : Path} {s : String} {rest : List (Path × String)}
    (h : (writeAll Tree.disk ((p, s) :: rest)).run t = (.ok (), t')) :
    ∃ t₁, t.write p s = .ok t₁ ∧ (writeAll Tree.disk rest).run t₁ = (.ok (), t') := by
  cases hfirst : (Tree.disk.write p s).run t with
  | mk result t₁ =>
    rw [writeAll, Tree.run_bind hfirst] at h
    cases result with
    | error e => cases h
    | ok u => exact ⟨t₁, Tree.eq_ok_of_run_changing hfirst, h⟩

variable {out : Path} {files : List (String × String)} (hnames : ∀ f ∈ files, f.1 ≠ "..")
  (h : (writeAll Tree.disk (files.map fun f => (out.child f.1, f.2))).run t = (.ok (), t'))

include hnames h

/-- a file stays as it is while others are written beside it -/
theorem read_writeAll_other {n : String} (hn : n ≠ "..") (hother : ∀ f ∈ files, f.1 ≠ n) {content : ByteArray}
    (hread : t.read (out.child n) = .ok content) : t'.read (out.child n) = .ok content := by
  induction files generalizing t with
  | nil =>
    cases h
    exact hread
  | cons f files ih =>
    obtain ⟨t₁, hwrite, hrest⟩ := writeAll_cons h
    obtain ⟨hname, hnames⟩ := List.forall_mem_cons.1 hnames
    obtain ⟨hfirst, hother⟩ := List.forall_mem_cons.1 hother
    exact ih hnames hrest hother (Tree.read_write_sibling hwrite hfirst hname hn hread)

/-- files of a directory that are written one after the other: each holds what was last written under its name -/
theorem read_writeAll {n s : String} (earlier : List (String × String)) {later : List (String × String)}
    (hfiles : files = earlier ++ (n, s) :: later) (hlast : ∀ f ∈ later, f.1 ≠ n) : t'.read (out.child n) = .ok s.toUTF8 := by
  subst hfiles
  induction earlier generalizing t with
  | nil =>
    obtain ⟨t₁, hwrite, hrest⟩ := writeAll_cons h
    obtain ⟨hname, hnames⟩ := List.forall_mem_cons.1 hnames
    exact read_writeAll_other hnames hrest hname hlast (Tree.read_write_self hwrite)
  | cons f earlier ih =>
    obtain ⟨t₁, -, hrest⟩ := writeAll_cons h
    exact ih (List.forall_mem_cons.1 hnames).2 hrest

end Console

/-! ## The files of a compilation -/

/-- a document holds more than its markup -/
theorem Artifacts.document_ne_markup (r : Artifacts) (title : String) : r.document title ≠ r.markup := by
  intro h
  have hlength := congrArg String.length h
  simp only [document, Html.around, Text.unlines, List.cons_append, List.nil_append, String.intercalate_cons_cons,
    String.intercalate_singleton, String.length_append] at hlength
  have hstart : "<!DOCTYPE html>".length = 15 := by decide
  omega

namespace Console

/-- the names and texts of the files of a compilation -/
def outputTexts (stem : String) (r : Artifacts) : List (String × String) :=
  [(stem ++ ".html", r.markup), (stem ++ ".js", r.script), (stem ++ ".css", r.stylesheet),
    ("index.html", r.document (stem ++ " - SWeb Application"))]

theorem outputFiles_eq (out : Path) (stem : String) (r : Artifacts) :
    outputFiles out stem r = (outputTexts stem r).map fun f => (out.child f.1, f.2) := rfl

/-- names with different endings differ -/
theorem append_ne_append {e e' : String} (h : ¬ e.toList <:+ e'.toList) (h' : ¬ e'.toList <:+ e.toList) (s s' : String) :
    s ++ e ≠ s' ++ e' := by
  intro heq
  have hlist : s.toList ++ e.toList = s'.toList ++ e'.toList := by
    rw [← String.toList_append, heq, String.toList_append]
  have hsuffix : e'.toList <:+ s.toList ++ e.toList := hlist ▸ List.suffix_append _ _
  exact (List.suffix_or_suffix_of_suffix (List.suffix_append _ _) hsuffix).elim h h'

/-- what the files of a compilation hold; the document is written last, and the markup of `index` has its name -/
theorem read_outputFiles {t t' : Tree} {out : Path} {stem : String} {r : Artifacts}
    (h : (writeAll Tree.disk (outputFiles out stem r)).run t = (.ok (), t')) :
    t'.read (out.child (stem ++ ".js")) = .ok r.script.toUTF8 ∧
      t'.read (out.child (stem ++ ".css")) = .ok r.stylesheet.toUTF8 ∧
      t'.read (out.child "index.html") = .ok (r.document (stem ++ " - SWeb Application")).toUTF8 ∧
      (t'.read (out.child (stem ++ ".html")) = .ok r.markup.toUTF8 ↔ stem ≠ "index") := by
  have hindex : "index.html" = "index" ++ ".html" := by decide
  have hnames : ∀ f ∈ outputTexts stem r, f.1 ≠ ".." := by
    simp only [outputTexts, List.forall_mem_cons]
    have hdots : ".." = "" ++ ".." := by decide
    rw [hdots]
    exact ⟨append_ne_append (by decide) (by decide) _ _, append_ne_append (by decide) (by decide) _ _,
      append_ne_append (by decide) (by decide) _ _, by decide, List.forall_mem_nil _⟩
  have hcss : stem ++ ".css" ≠ stem ++ ".js" := append_ne_append (by decide) (by decide) _ _
  have hjs : stem ++ ".js" ≠ stem ++ ".html" := append_ne_append (by decide) (by decide) _ _
  have hhtml : stem ++ ".css" ≠ stem ++ ".html" := append_ne_append (by decide) (by decide) _ _
  have hindexjs : "index.html" ≠ stem ++ ".js" := hindex ▸ append_ne_append (by decide) (by decide) _ _
  have hindexcss : "index.html" ≠ stem ++ ".css" := hindex ▸ append_ne_append (by decide) (by decide) _ _
  rw [outputFiles_eq] at h
  have hdocument := read_writeAll hnames h [_, _, _] rfl (List.forall_mem_nil _)
  refine ⟨?_, ?_, hdocument, ?_⟩
  · exact read_writeAll hnames h [_] rfl (by simp [hcss, hindexjs])
  · exact read_writeAll hnames h [_, _] rfl (by simp [hindexcss])
  · constructor
    · rintro hmarkup rfl
      rw [← hindex, hdocument, Except.ok.injEq] at hmarkup
      exact r.document_ne_markup _ (String.toByteArray_inj.1 hmarkup)
    · intro hstem
      have hother : "index.html" ≠ stem ++ ".html" := by
        rw [hindex, Ne, ← String.toList_inj, String.toList_append, String.toList_append, List.append_left_inj,
          String.toList_inj]
        exact hstem.symm
      exact read_writeAll hnames h [] rfl (by simp [hjs, hhtml, hother])

end Console

/-! ## Running the command -/

/-- the message of an error in a source, unless it is one that the program does not report -/
def Failure.message? (file : Option String) : Failure → Option String
  | .lex e => some (e.report file)
  | .grammar (.mismatch e) => some (e.report file)
  | .generation (.reference r) => some r.message
  | .grammar _ | .generation .numeral => none

namespace Console

def mannerOf (h : Host) (verbose : Bool) : Manner :=
  ⟨h, ⟨Log.effectiveLevel (if verbose then some (.number Log.Severity.debug.number) else none) h.levelName, none⟩, verbose⟩

/-- what is added to a message: where the error is, with the lines around it -/
def excerptOf (w : Manner) (file : Path) (source : String) (f : Failure) : String :=
  if w.verbose then (f.location? (some file.text)).elim "" fun l => excerpt w.host.err l source else ""

theorem failureOutcome_eq {f : Failure} {file : Path} {message : String} (hm : f.message? (some file.text) = some message)
    (w : Manner) (label source : String) :
    failureOutcome w label file source f =
      .reported (w.host.err.line (label ++ ": " ++ message) ++ excerptOf w file source f) := by
  cases f with
  | lex e =>
    obtain rfl := Option.some.inj hm
    rfl
  | grammar g =>
    cases g with
    | mismatch e =>
      obtain rfl := Option.some.inj hm
      rfl
    | _ => cases hm
  | generation e =>
    cases e with
    | reference r =>
      obtain rfl := Option.some.inj hm
      simp [failureOutcome, excerptOf, Failure.location?]
    | numeral => cases hm

theorem configOutcome_eq {path : Path} {fault : Config.Fault} {message : String} (hm : fault.message? path = some message)
    (h : Host) (label : String) : configOutcome h label path fault = .reported (h.err.line (label ++ ": " ++ message)) := by
  unfold configOutcome
  rw [hm]

variable {t : Tree} {h : Host} {file : Path} {source : String}

theorem run_withSource (hs : t.text file = .ok source) (action : String) (f : Path → String → StateM Tree Outcome) :
    (withSource Tree.disk h (some file) action f).run t = (f file source).run t := by
  have hread := Tree.run_readText t file
  rw [hs] at hread
  exact Tree.run_bind hread _

/-- a command that ends well has read its source -/
theorem exists_source {action : String} {f : Path → String → StateM Tree Outcome}
    (hstatus : ((withSource Tree.disk h (some file) action f).run t).1.status = 0) : ∃ source, t.text file = .ok source := by
  cases hs : t.text file with
  | ok source => exact ⟨source, rfl⟩
  | error e =>
    have hread := Tree.run_readText t file
    rw [hs] at hread
    unfold withSource at hstatus
    rw [Tree.run_bind hread] at hstatus
    cases e with
    | unreadable e => cases hstatus
    | notText => cases hstatus

variable {config : Option Path} {o : Options}

theorem run_withOptions (ho : t.options h.config file config = .ok o) (label : String)
    (f : Options → StateM Tree Outcome) : (withOptions Tree.disk h label file config f).run t = (f o).run t := by
  have hdiscover := Tree.run_discover t h.config file config
  rw [ho] at hdiscover
  exact Tree.run_bind hdiscover _

theorem run_withOptions_fault {path : Path} {fault : Config.Fault}
    (ho : t.options h.config file config = .error (path, fault)) (label : String) (f : Options → StateM Tree Outcome) :
    (withOptions Tree.disk h label file config f).run t = (configOutcome h label path fault, t) := by
  have hdiscover := Tree.run_discover t h.config file config
  rw [ho] at hdiscover
  exact Tree.run_bind hdiscover _

/-- a command that ends well has found its options -/
theorem exists_options {label : String} {f : Options → StateM Tree Outcome}
    (hstatus : ((withOptions Tree.disk h label file config f).run t).1.status = 0) :
    ∃ o, t.options h.config file config = .ok o := by
  cases ho : t.options h.config file config with
  | ok o => exact ⟨o, rfl⟩
  | error x =>
    obtain ⟨path, fault⟩ := x
    rw [run_withOptions_fault ho] at hstatus
    unfold configOutcome at hstatus
    cases hm : fault.message? path with
    | some message =>
      rw [hm] at hstatus
      cases hstatus
    | none =>
      rw [hm] at hstatus
      cases hstatus

variable {w : Manner} {out : Path}

theorem runCompile_of_failure (hs : t.text file = .ok source) (ho : t.options w.host.config file config = .ok o)
    {f : Failure}
    (hf : (compileSource o (some file.text) source).1 = .error f) :
    (runCompile Tree.disk w (some file) out config).run t =
      ((failureOutcome w "Compilation failed" file source f).after (w.lines (compileSource o (some file.text) source).2),
        t) := by
  unfold runCompile
  rw [run_withSource hs, run_withOptions ho]
  simp only [hf]
  rfl

theorem runCompile_of_fault (hs : t.text file = .ok source) {path : Path} {fault : Config.Fault}
    (ho : t.options w.host.config file config = .error (path, fault)) :
    (runCompile Tree.disk w (some file) out config).run t = (configOutcome w.host "Compilation failed" path fault, t) := by
  unfold runCompile
  rw [run_withSource hs, run_withOptions_fault ho]

theorem status_failureOutcome (w : Manner) (label source : String) (file : Path) (f : Failure) :
    (failureOutcome w label file source f).status = 1 := by
  cases f with
  | lex e => rfl
  | grammar g =>
    cases g with
    | mismatch e => rfl
    | _ => rfl
  | generation e =>
    cases e with
    | reference r => rfl
    | numeral => rfl

/-- the files are written when their directory is there -/
theorem exists_writeAll_of_writeOutput {stem : String} {r : Artifacts} {t' : Tree}
    (h : (writeOutput Tree.disk out stem r).run t = (.ok (), t')) :
    ∃ t₁, (writeAll Tree.disk (outputFiles out stem r)).run t₁ = (.ok (), t') := by
  cases hmade : (Tree.disk.ensureDirectories out).run t with
  | mk result t₁ =>
    unfold writeOutput at h
    rw [Tree.run_bind hmade] at h
    cases result with
    | error e => cases h
    | ok u => exact ⟨t₁, h⟩

/-- a compile command that ends well has compiled its source and written the files, the last thing it did to the disk -/
theorem exists_writeAll {outcome : Outcome} {t' : Tree}
    (h : (runCompile Tree.disk w (some file) out config).run t = (outcome, t')) (hstatus : outcome.status = 0) :
    ∃ source o r t₁, t.text file = .ok source ∧ t.options w.host.config file config = .ok o ∧
      (compileSource o (some file.text) source).1 = .ok r ∧
      (writeAll Tree.disk (outputFiles out file.stem r)).run t₁ = (.ok (), t') := by
  have hzero : ((runCompile Tree.disk w (some file) out config).run t).1.status = 0 := by
    rw [h]
    exact hstatus
  unfold runCompile at h hzero
  obtain ⟨source, hs⟩ := exists_source hzero
  rw [run_withSource hs] at h hzero
  obtain ⟨o, ho⟩ := exists_options hzero
  rw [run_withOptions ho] at h
  cases hresult : (compileSource o (some file.text) source).1 with
  | error f =>
    simp only [hresult] at h
    cases h
    rw [Outcome.after, status_failureOutcome] at hstatus
    cases hstatus
  | ok r =>
    refine ⟨source, o, r, ?_⟩
    simp only [hresult] at h
    cases hwarned : shownTexts w.host.err (warningTexts r.warnings) with
    | mk warned fault =>
      simp only [hwarned] at h
      cases fault with
      | some e =>
        cases h
        cases hstatus
      | none =>
        cases hwrite : (writeOutput Tree.disk out file.stem r).run t with
        | mk written t₂ =>
          rw [Tree.run_bind hwrite] at h
          cases written with
          | error e =>
            cases h
            cases hstatus
          | ok u =>
            obtain ⟨t₁, hall⟩ := exists_writeAll_of_writeOutput hwrite
            cases h
            exact ⟨t₁, hs, ho, hresult, hall⟩

theorem run_compile {args : List String} {verbose : Bool}
    (hrequest : requestOf args = .run verbose (.compile (some file) out config)) (h : Host) :
    run Tree.disk h args = runCompile Tree.disk (mannerOf h verbose) (some file) out config := by
  unfold run
  rw [hrequest]
  rfl

/-- a message behind its label is shown as it is on a terminal, and on any other channel if it has no control sequences -/
theorem shown_label {c : Channel} {message : String}
    (h : c.isTerminal = true ∨ c.Unstyles ∧ ¬HasControlSequence message.toList) :
    c.shown ("Compilation failed: " ++ message) = "Compilation failed: " ++ message := by
  unfold Channel.shown
  rcases h with hterminal | ⟨hunstyles, hmessage⟩
  · rw [if_pos hterminal]
  · rw [hunstyles, visible_append (by decide), visible_eq_self_iff.2 hmessage, ite_self]

/-- **What a compile command leaves.** When it ends well, the script, the stylesheet and the document of the compilation are
in the directory under the names that the source gives them, and so is the markup, except that a source called `index` has
its markup written over by the document. When there is an error in the options or in the source, the command fails with the
message of the error, and the disk is as it was. The message is shown as the channel shows it, which is as it is on a terminal
or if it has no control sequences. -/
theorem compile_leaves_artifacts {t after : Tree} {h : Host} {args : List String} {verbose : Bool} {file out : Path}
    {config : Option Path} {outcome : Outcome}
    (hrequest : requestOf args = .run verbose (.compile (some file) out config))
    (hrun : (run Tree.disk h args).run t = (outcome, after)) :
    (outcome.status = 0 → ∃ source o r, t.text file = .ok source ∧ t.options h.config file config = .ok o ∧
        (compileSource o (some file.text) source).1 = .ok r ∧
        after.read (out.child (file.stem ++ ".js")) = .ok r.script.toUTF8 ∧
        after.read (out.child (file.stem ++ ".css")) = .ok r.stylesheet.toUTF8 ∧
        after.read (out.child "index.html") = .ok (r.document (file.stem ++ " - SWeb Application")).toUTF8 ∧
        (after.read (out.child (file.stem ++ ".html")) = .ok r.markup.toUTF8 ↔ file.stem ≠ "index")) ∧
      (∀ source, t.text file = .ok source →
        (∀ path fault message, t.options h.config file config = .error (path, fault) → fault.message? path = some message →
          outcome.status = 1 ∧ after = t ∧ outcome.stderr = h.err.shown ("Compilation failed: " ++ message) ++ "\n") ∧
        ∀ o f message, t.options h.config file config = .ok o → (compileSource o (some file.text) source).1 = .error f →
          f.message? (some file.text) = some message →
            outcome.status = 1 ∧ after = t ∧
              outcome.stderr = (mannerOf h verbose).lines (compileSource o (some file.text) source).2 ++
                (h.err.shown ("Compilation failed: " ++ message) ++ "\n" ++
                  excerptOf (mannerOf h verbose) file source f)) ∧
      ∀ message, h.err.isTerminal = true ∨ h.err.Unstyles ∧ ¬HasControlSequence message.toList →
        h.err.shown ("Compilation failed: " ++ message) = "Compilation failed: " ++ message := by
  rw [run_compile hrequest] at hrun
  refine ⟨fun hstatus => ?_, fun source hs => ⟨fun path fault message ho hm => ?_, fun o f message ho hf hm => ?_⟩,
    fun message => shown_label⟩
  · obtain ⟨source, o, r, t₁, hs, ho, hr, hall⟩ := exists_writeAll hrun hstatus
    exact ⟨source, o, r, hs, ho, hr, read_outputFiles hall⟩
  · rw [runCompile_of_fault (w := mannerOf h verbose) hs ho, configOutcome_eq hm] at hrun
    cases hrun
    exact ⟨rfl, rfl, rfl⟩
  · rw [runCompile_of_failure (w := mannerOf h verbose) hs ho hf, failureOutcome_eq hm] at hrun
    cases hrun
    exact ⟨rfl, rfl, rfl⟩

/-- the command line that names a source and a directory -/
theorem requestOf_compile_out {file out : String} (hfile : isSwitch file = false)
    (hsource : (Path.ofText file).hasNul = false) (hout : (Path.ofText out).hasNul = false) :
    requestOf ["compile", file, "--out", out] = .run false (.compile (some (Path.ofText file)) (Path.ofText out) none) := by
  have hends : file ≠ "--" := by
    rintro rfl
    cases hfile
  have hglobal : readArguments [versionSwitch, verboseSwitch, helpSwitch] false ["compile", file, "--out", out] =
      some ([], ["compile", file, "--out", out]) := rfl
  have hvalue : readArguments [outSwitch, configSwitch, helpSwitch] true ["--out", out] = some ([("--out", out)], []) := rfl
  have harguments : readArguments [outSwitch, configSwitch, helpSwitch] true [file, "--out", out] =
      some ([("--out", out)], [file]) := by
    rw [readArguments, if_neg hends, if_neg (by simp [hfile]), if_pos rfl, hvalue]
    rfl
  have hcommand : commandOf "compile" [("--out", out)] [file] =
      some (.compile (some (Path.ofText file)) (Path.ofText out) none) := by
    have hdirectory : valueOr [("--out", out)] outSwitch "./dist" = out := rfl
    have hconfig : lastValue [("--out", out)] configSwitch.name = none := rfl
    simp [commandOf, fileArgument, pathOrNone, pathArgument, hsource, hout, hdirectory, hconfig]
  have hhelp : isGiven [("--out", out)] helpSwitch.name = false := rfl
  have hswitches : switchesOf "compile" = some [outSwitch, configSwitch, helpSwitch] := rfl
  have hnone : ∀ name, isGiven [] name = false := fun _ => rfl
  simp [requestOf, hglobal, hswitches, harguments, hcommand, hhelp, hnone]

def oneSource (name source : String) : Tree := ⟨[([name], .file source.toUTF8)]⟩

def oneModel : String := "model M \x7b field x: text; \x7d"

theorem compile_leaves_artifacts_app :
    requestOf ["compile", "app.sweb", "--out", "out"] =
        .run false (.compile (some ⟨"", ["app.sweb"]⟩) ⟨"", ["out"]⟩ none) ∧
      (∃ (outcome : Outcome) (after : Tree) (o : Options) (r : Artifacts),
        (run Tree.disk (.piped 300) ["compile", "app.sweb", "--out", "out"]).run (oneSource "app.sweb" oneModel) =
            (outcome, after) ∧ outcome.status = 0 ∧ (compileSource o (some "app.sweb") oneModel).1 = .ok r ∧
          after.read ⟨"", ["out", "app.html"]⟩ = .ok r.markup.toUTF8 ∧
          after.read ⟨"", ["out", "index.html"]⟩ = .ok (r.document "app - SWeb Application").toUTF8) ∧
      ∃ (outcome : Outcome) (after : Tree),
        (run Tree.disk (.piped 300) ["compile", "app.sweb", "--out", "out"]).run (oneSource "app.sweb" "@") =
            (outcome, after) ∧ outcome.status = 1 ∧ after = oneSource "app.sweb" "@" ∧
          outcome.stderr = "Compilation failed: app.sweb:1:1\nUnexpected character: '@'\n" := by
  have hrequest : requestOf ["compile", "app.sweb", "--out", "out"] =
      .run false (.compile (some ⟨"", ["app.sweb"]⟩) ⟨"", ["out"]⟩ none) :=
    requestOf_compile_out (by decide) (by decide) (by decide)
  refine ⟨hrequest, ?_, ?_⟩
  · have htext : (oneSource "app.sweb" oneModel).text ⟨"", ["app.sweb"]⟩ = .ok oneModel := by decide +kernel
    have hstatus : ((run Tree.disk (.piped 300) ["compile", "app.sweb", "--out", "out"]).run
        (oneSource "app.sweb" oneModel)).1.status = 0 := by decide +kernel
    cases hrun : (run Tree.disk (.piped 300) ["compile", "app.sweb", "--out", "out"]).run
        (oneSource "app.sweb" oneModel) with
    | mk outcome after =>
      rw [hrun] at hstatus
      obtain ⟨source, o, r, hs, -, hr, -, -, hdocument, hmarkup⟩ := (compile_leaves_artifacts hrequest hrun).1 hstatus
      obtain rfl : oneModel = source := Except.ok.inj (htext.symm.trans hs)
      exact ⟨outcome, after, o, r, rfl, hstatus, hr, hmarkup.2 (by decide), hdocument⟩
  · have htext : (oneSource "app.sweb" "@").text ⟨"", ["app.sweb"]⟩ = .ok "@" := by decide +kernel
    have hoptions : (oneSource "app.sweb" "@").options (Host.piped 300).config ⟨"", ["app.sweb"]⟩ none = .ok .standard := rfl
    have hfailure : (compileSource .standard (some "app.sweb") "@").1 = .error (.lex ⟨.unexpected, "@", 1, 1⟩) := by
      decide +kernel
    cases hrun : (run Tree.disk (.piped 300) ["compile", "app.sweb", "--out", "out"]).run (oneSource "app.sweb" "@") with
    | mk outcome after =>
      obtain ⟨hstatus, hafter, hstderr⟩ :=
        ((compile_leaves_artifacts hrequest hrun).2.1 "@" htext).2 _ _ _ hoptions hfailure rfl
      refine ⟨outcome, after, rfl, hstatus, hafter, hstderr.trans ?_⟩
      decide +kernel

/-- the document of a source called `index` is written over its markup, and the command ends well -/
theorem index_markup_is_lost :
    ∃ (outcome : Outcome) (after : Tree) (r : Artifacts),
      (run Tree.disk (.piped 300) ["compile", "index.sweb", "--out", "out"]).run (oneSource "index.sweb" oneModel) =
          (outcome, after) ∧ outcome.status = 0 ∧ (compileSource .standard (some "index.sweb") oneModel).1 = .ok r ∧
        after.read ⟨"", ["out", "index.html"]⟩ ≠ .ok r.markup.toUTF8 := by
  have hrequest : requestOf ["compile", "index.sweb", "--out", "out"] =
      .run false (.compile (some ⟨"", ["index.sweb"]⟩) ⟨"", ["out"]⟩ none) :=
    requestOf_compile_out (by decide) (by decide) (by decide)
  have hstatus : ((run Tree.disk (.piped 300) ["compile", "index.sweb", "--out", "out"]).run
      (oneSource "index.sweb" oneModel)).1.status = 0 := by decide +kernel
  have htext : (oneSource "index.sweb" oneModel).text ⟨"", ["index.sweb"]⟩ = .ok oneModel := by decide +kernel
  have hoptions : (oneSource "index.sweb" oneModel).options (Host.piped 300).config ⟨"", ["index.sweb"]⟩ none = .ok .standard := rfl
  cases hrun : (run Tree.disk (.piped 300) ["compile", "index.sweb", "--out", "out"]).run
      (oneSource "index.sweb" oneModel) with
  | mk outcome after =>
    rw [hrun] at hstatus
    have hcompile := hrun
    rw [run_compile hrequest] at hcompile
    obtain ⟨source, o, r, t₁, hs, ho, hr, hall⟩ := exists_writeAll hcompile hstatus
    obtain rfl : oneModel = source := Except.ok.inj (htext.symm.trans hs)
    obtain rfl : Options.standard = o := Except.ok.inj (hoptions.symm.trans ho)
    refine ⟨outcome, after, r, rfl, hstatus, hr, fun hmarkup => ?_⟩
    exact (read_outputFiles hall).2.2.2.1 hmarkup (by decide)

end Console

end Pagewright
