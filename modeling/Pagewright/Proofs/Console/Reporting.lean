/-
Which bad inputs a command reports. A command that names a source reads its text, then its options, and then the source
itself; what is wrong is told on the second channel, with one, except in the cases that `Unreported` lists. For these the
command ends with an error of its own (`bad_input_reporting`): a file that is not UTF-8, an integer of too many digits in
either file, an options file whose brackets nest deeper than there is room for, and one that cannot be asked for. A compile
command can also fail over a tag in the texts that tell of its success, but only over one in a path, never over one in a
warning (`not_mem_warnings`).

The proof goes stage by stage. For each stage there is one lemma about the command and one about `Unreported`, which say the
same of the failure of this stage.
-/
import Pagewright.Proofs.Artifact.Warnings
import Pagewright.Proofs.Compile.Expressible
import Pagewright.Proofs.Console.OptionsFile
import Pagewright.Proofs.Console.Styled
import Pagewright.Proofs.Toml.Unreadable

namespace Pagewright

open Files

/-! ## Names in warnings -/

/-- the names that are told of what was found -/
def Finding.names : Finding → List String
  | .absent component page => [component, page]
  | .untyped model field type => [model, field, type]

theorem Finding.bracket_not_mem {f : Finding} (h : ∀ n ∈ f.names, '[' ∉ n.toList) : '[' ∉ f.message.toList := by
  cases f with
  | absent component page =>
    simp only [names, List.forall_mem_cons, List.not_mem_nil, false_imp_iff, implies_true, and_true] at h
    simp [message, h]
  | untyped model field type =>
    simp only [names, List.forall_mem_cons, List.not_mem_nil, false_imp_iff, implies_true, and_true] at h
    simp [message, h]

/-- they are names of the application -/
theorem App.mem_names_of_finding {a : App} {f : Finding} (hf : f ∈ a.findings) {n : String} (hn : n ∈ f.names) :
    n ∈ a.names := by
  have hpage : ∀ p ∈ a.pages, f ∈ a.pageFindings p → n ∈ a.names := by
    intro p hp hf
    obtain ⟨name, hname, rfl⟩ := List.mem_map.1 hf
    refine mem_names_of_page hp ?_
    rcases List.mem_pair.1 hn with rfl | rfl
    · exact List.mem_cons_of_mem _ (List.mem_filter.1 hname).1
    · exact List.mem_cons_self
  have hmodel : ∀ m ∈ a.models, f ∈ m.findings → n ∈ a.names := by
    intro m hm hf
    obtain ⟨g, hg, rfl⟩ := List.mem_map.1 hf
    refine mem_names_of_model hm ?_
    rcases List.mem_cons.1 hn with rfl | hn
    · exact List.mem_cons_self
    · exact List.mem_cons_of_mem _ (List.mem_flatMap.2 ⟨g, (List.mem_filter.1 hg).1, hn⟩)
  simp only [findings, List.mem_append, List.mem_flatMap] at hf
  rcases hf with (⟨p, hp, hf⟩ | ⟨m, hm, hf⟩) | ⟨p, hp, hf⟩
  · exact hpage p (List.mem_of_mem_take hp) hf
  · obtain ⟨x, hx, rfl⟩ := List.mem_map.1 hm
    exact hmodel x.1 (List.fst_mem_of_mem_zipIdx (List.mem_filter.1 hx).1) hf
  · exact hpage p hp hf

/-- every warning tells of something that was found -/
theorem exists_finding_of_warning {o : Options} {a : App} {r : Artifacts} (h : (compileApp o a).1 = .ok r) {w : String}
    (hw : w ∈ r.warnings) : ∃ f ∈ a.findings, f.message = w := by
  obtain ⟨hmarkup, hscript, -⟩ := compileApp_eq_ok h
  have hgiven : (a.generate o).warnings = a.findings.map Finding.message := by
    rw [App.generate, Generated.warnings_bind hmarkup, Generated.warnings_bind_pure, App.warnings_markup hmarkup,
      App.warnings_script hscript, App.findings, ← List.map_append, List.append_assoc]
  have hwarnings : r.warnings = firstOccurrences (a.generate o).warnings := by
    unfold compileApp at h
    cases hresult : (a.generate o).result with
    | error e => simp [hresult] at h
    | ok x =>
      simp only [hresult, Except.ok.injEq] at h
      rw [← h]
  rw [hwarnings, hgiven, firstOccurrences_eq_eraseDups, List.mem_eraseDups] at hw
  exact List.mem_map.1 hw

/-- no warning about a source has a bracket in it -/
theorem not_mem_warnings {o : Options} {file : Option String} {source : String} {r : Artifacts}
    (h : (compileSource o file source).1 = .ok r) : ∀ w ∈ r.warnings, '[' ∉ w.toList := by
  obtain ⟨a, hread, hcompile⟩ := (compileSource_eq_ok_iff o file r).1 h
  intro w hw
  obtain ⟨f, hf, rfl⟩ := exists_finding_of_warning hcompile hw
  refine Finding.bracket_not_mem fun n hn hmem => ?_
  have hfree := App.isFree_of_declared (App.declared_of_readApp hread) n (App.mem_names_of_finding hf hn)
  cases Name.isPart_of_isName hfree.1 hmem

namespace Console

/-! ## Endings -/

/-- an outcome that is as it should be unless there is a cause: it ends well or with a message, and an error escapes exactly
if the cause is there -/
structure Reports (cause : Prop) (o : Outcome) : Prop where
  ends : o.escaped = none → o.status = 0 ∨ o.status = 1 ∧ o.stderr ≠ ""
  escapes : o.escaped ≠ none ↔ cause

section

variable {cause : Prop} {o : Outcome}

theorem reports_reported {s : String} (hs : s ≠ "") (hcause : ¬ cause) : Reports cause (.reported s) :=
  ⟨fun _ => Or.inr ⟨rfl, hs⟩, iff_of_false (fun h => h rfl) hcause⟩

theorem reports_of_escaped {e : Escape} (h : o.escaped = some e) (hcause : cause) : Reports cause o where
  ends hnone := by
    rw [h] at hnone
    cases hnone
  escapes := iff_of_true (h ▸ Option.some_ne_none e) hcause

theorem reports_of_success (h : o.escaped = none) (hstatus : o.status = 0) (hcause : ¬ cause) : Reports cause o :=
  ⟨fun _ => Or.inl hstatus, iff_of_false (fun hne => hne h) hcause⟩

theorem Reports.after (h : Reports cause o) (s : String) : Reports cause (o.after s) := by
  refine ⟨fun hnone => (h.ends hnone).imp_right fun hone => ⟨hone.1, fun hs => hone.2 ?_⟩, h.escapes⟩
  exact (String.append_eq_empty_iff.1 hs).2

theorem Reports.congr {cause' : Prop} (h : Reports cause o) (hcause : cause ↔ cause') : Reports cause' o :=
  ⟨h.ends, h.escapes.trans hcause⟩

end

theorem line_ne_empty (c : Channel) (s : String) : c.line s ≠ "" := by
  intro h
  exact absurd (String.append_eq_empty_iff.1 h).2 (by decide)

/-! ## Stages -/

theorem reports_configOutcome (h : Host) (label : String) (path : Path) (fault : Config.Fault) :
    Reports (¬ Config.Told (.error (path, fault))) (configOutcome h label path fault) := by
  cases hmessage : fault.message? path with
  | some message =>
    rw [configOutcome_eq hmessage]
    exact reports_reported (line_ne_empty _ _) (not_not.2 (.fault hmessage))
  | none =>
    unfold configOutcome
    rw [hmessage]
    exact reports_of_escaped rfl fun h => Config.told_error_iff.1 h hmessage

theorem reports_failureOutcome {o : Options} {file : Path} {source : String} {f : Failure}
    (hf : (compileSource o (some file.text) source).1 = .error f) (w : Manner) (label : String) :
    Reports (HasOverlongDefault o source) (failureOutcome w label file source f) := by
  have hcause := compileSource_eq_numeral_iff o (some file.text) source
  by_cases hnumeral : f = .grammar .numeral
  · subst hnumeral
    exact reports_of_escaped rfl (hcause.1 hf)
  · have hnot : ¬ HasOverlongDefault o source := fun h =>
      hnumeral (Except.error.inj (hf.symm.trans (hcause.2 h)))
    obtain ⟨message, hmessage⟩ : ∃ message, f.message? (some file.text) = some message := by
      cases diagnostic_of_compileSource hf hnumeral with
      | lex e => exact ⟨_, rfl⟩
      | mismatch e => exact ⟨_, rfl⟩
      | reference r => exact ⟨_, rfl⟩
    rw [failureOutcome_eq hmessage]
    refine reports_reported (fun h => ?_) hnot
    exact line_ne_empty _ _ (String.append_eq_empty_iff.1 h).1

/-- what a command that names a source does not report: the source is not UTF-8, the options are untold, or a default in the
source has too many digits -/
inductive Unreported (t : Tree) (h : Config.Host) (file : Path) (config : Option Path) : Prop
  | source {b : ByteArray} (hread : t.read file = .ok b) (hb : ¬ b.IsValidUTF8)
  | options {source : String} (hs : t.text file = .ok source) (h : t.Untold h.room file config)
  | default {source : String} {o : Options} (hs : t.text file = .ok source) (ho : t.options h file config = .ok o)
      (h : HasOverlongDefault o source)

section

variable {t : Tree} {h : Config.Host} {file : Path} {config : Option Path} {source : String} {o : Options}

theorem not_unreported_of_unreadable {e : FileError} (hread : t.read file = .error e) : ¬ Unreported t h file config := by
  have hs := Tree.text_of_unreadable hread
  intro h
  cases h with
  | source hread' _ =>
    rw [hread] at hread'
    cases hread'
  | options hs' _ =>
    rw [hs] at hs'
    cases hs'
  | default hs' _ _ =>
    rw [hs] at hs'
    cases hs'

/-- for a source that is a text the options decide, if there is something wrong with them -/
theorem unreported_iff_untold {b : ByteArray} (hread : t.read file = .ok b) (hb : b.IsValidUTF8) (hs : t.text file = .ok source)
    {x : Path × Config.Fault} (ho : t.options h file config = .error x) :
    Unreported t h file config ↔ t.Untold h.room file config := by
  constructor
  · intro h
    cases h with
    | source hread' hb' =>
      rw [hread] at hread'
      cases hread'
      exact absurd hb hb'
    | options _ h => exact h
    | default _ ho' _ =>
      rw [ho] at ho'
      cases ho'
  · exact .options hs

/-- and else the defaults in the source -/
theorem unreported_iff_default {b : ByteArray} (hread : t.read file = .ok b) (hb : b.IsValidUTF8)
    (hs : t.text file = .ok source) (ho : t.options h file config = .ok o) (htold : ¬ t.Untold h.room file config) :
    Unreported t h file config ↔ HasOverlongDefault o source := by
  constructor
  · intro h
    cases h with
    | source hread' hb' =>
      rw [hread] at hread'
      cases hread'
      exact absurd hb hb'
    | options _ h => exact absurd h htold
    | default hs' ho' h =>
      rw [hs] at hs'
      rw [ho] at ho'
      cases hs'
      cases ho'
      exact h
  · exact .default hs ho

variable {h : Host}

theorem run_withSource_unreadable {e : FileError} (hs : t.text file = .error (.unreadable e)) (action : String)
    (f : Path → String → StateM Tree Outcome) :
    (withSource Tree.disk h (some file) action f).run t =
      (.reported (h.err.line ("Cannot read " ++ file.text ++ ": " ++ e.message)), t) := by
  have hread := Tree.run_readText t file
  rw [hs] at hread
  unfold withSource
  rw [Tree.run_bind hread]
  rfl

theorem run_withSource_notText (hs : t.text file = .error .notText) (action : String)
    (f : Path → String → StateM Tree Outcome) :
    (withSource Tree.disk h (some file) action f).run t = (.escape .notText, t) := by
  have hread := Tree.run_readText t file
  rw [hs] at hread
  unfold withSource
  rw [Tree.run_bind hread]
  rfl

/-- a command that goes on with the text of a source and its options, and reports then what it should, reports what it should
from the start; `cause` is what it does not report besides -/
theorem reports_withSource {label action : String}
    (hnul : ∀ path, config = some path → path.hasNul = false) {cause : Prop}
    (hcause : cause → ∃ source o, t.text file = .ok source ∧ t.options h.config file config = .ok o)
    {f : Path → String → Options → StateM Tree Outcome}
    (hf : ∀ source o, t.text file = .ok source → t.options h.config file config = .ok o →
      Reports (HasOverlongDefault o source ∨ cause) ((f file source o).run t).1) :
    Reports (Unreported t h.config file config ∨ cause) ((withSource Tree.disk h (some file) action fun p source =>
      withOptions Tree.disk h label p config fun o => f p source o).run t).1 := by
  -- `cause` needs a text and options, so it is no matter where one of the two is missing
  have hno : ∀ {e}, t.text file = .error e → ¬ cause := by
    intro e he h
    obtain ⟨source, o, hs, -⟩ := hcause h
    rw [he] at hs
    cases hs
  rcases t.text_cases file with ⟨b, source, hread, hb, hs⟩ | ⟨b, hread, hb, hs⟩ | ⟨e, hread, hs⟩
  · rw [run_withSource hs]
    have htold := @Tree.told_options_iff t h.config config file hnul
    cases ho : t.options h.config file config with
    | error x =>
      have hno : ¬ cause := by
        intro h
        obtain ⟨source, o, -, ho'⟩ := hcause h
        rw [ho] at ho'
        cases ho'
      rw [ho] at htold
      rw [run_withOptions_fault ho]
      refine (reports_configOutcome h label x.1 x.2).congr ?_
      rw [or_iff_left hno, unreported_iff_untold hread hb hs ho]
      exact not_iff_comm.1 htold.symm
    | ok o =>
      rw [ho] at htold
      rw [run_withOptions ho]
      have hnot : ¬ t.Untold h.config.room file config := htold.1 (.options o)
      exact (hf source o hs ho).congr (or_congr_left (unreported_iff_default hread hb hs ho hnot).symm)
  · rw [run_withSource_notText hs]
    exact reports_of_escaped rfl (Or.inl (.source hread hb))
  · rw [run_withSource_unreadable hs]
    exact reports_reported (line_ne_empty _ _) (not_or.2 ⟨not_unreported_of_unreadable hread, hno hs⟩)

/-! ## Commands -/

theorem not_overlong_of_compileSource {file : Option String} {r : Artifacts} (h : (compileSource o file source).1 = .ok r) :
    ¬ HasOverlongDefault o source := by
  rw [← compileSource_eq_numeral_iff o file source, h]
  exact fun h => by cases h

theorem not_overlong_of_readApp {file : Option String} {a : App} (h : (readApp o file source).1 = .ok a) :
    ¬ HasOverlongDefault o source := by
  rw [← compileSource_eq_numeral_iff o file source, compileSource_of_app o file h]
  cases (compileApp o a).1 with
  | ok r => exact fun h => by cases h
  | error r => exact fun h => by cases h

theorem reports_runParse {w : Manner} {format : String} (hnul : ∀ path, config = some path → path.hasNul = false) :
    Reports (format ∈ formats ∧ Unreported t w.host.config file config)
      ((runParse Tree.disk w (some file) format config).run t).1 := by
  unfold runParse
  by_cases hformat : format ∈ formats
  · rw [if_neg (by simpa using hformat)]
    have hcause : Unreported t w.host.config file config ∨ False ↔
        format ∈ formats ∧ Unreported t w.host.config file config := by simp [hformat]
    refine Reports.congr (reports_withSource hnul False.elim fun source o hs ho => ?_) hcause
    cases hresult : (readApp o (some file.text) source).1 with
    | error f =>
      have hfailure := reports_failureOutcome (compileSource_of_failure o (some file.text) hresult) w "Parsing failed"
      simp only [hresult]
      exact (hfailure.after _).congr (or_iff_left not_false).symm
    | ok a =>
      simp only [hresult]
      exact reports_of_success rfl rfl (not_or.2 ⟨not_overlong_of_readApp hresult, not_false⟩)
  · rw [if_pos (by simpa using hformat)]
    exact reports_reported (line_ne_empty _ _) fun h => hformat h.1

/-- the files of a compilation are written, and the texts that tell of it have a bad tag -/
def Mistold (t : Tree) (h : Host) (file out : Path) (config : Option Path) : Prop :=
  ∃ source o r t' e, t.text file = .ok source ∧ t.options h.config file config = .ok o ∧
    (compileSource o (some file.text) source).1 = .ok r ∧ (writeOutput Tree.disk out file.stem r).run t = (.ok (), t') ∧
    (shownTexts h.out (successTexts file out)).2 = some e

/-- a bad tag is in a path -/
theorem Mistold.bracket_mem {out : Path} (hm : Mistold t h file out config) (htags : h.out.ShowsTags) :
    '[' ∈ file.text.toList ∨ '[' ∈ out.text.toList := by
  obtain ⟨-, -, -, -, e, -, -, -, -, he⟩ := hm
  by_contra hnot
  obtain ⟨hfile, hout⟩ := not_or.1 hnot
  rw [shownTexts_success htags hfile hout] at he
  cases he

theorem Mistold.exists_written {out : Path} (hm : Mistold t h file out config) (hs : t.text file = .ok source)
    (ho : t.options h.config file config = .ok o) :
    ∃ r t' e, (compileSource o (some file.text) source).1 = .ok r ∧
      (writeOutput Tree.disk out file.stem r).run t = (.ok (), t') ∧
      (shownTexts h.out (successTexts file out)).2 = some e := by
  obtain ⟨source', o', r, t', e, hs', ho', hr, hwrite, he⟩ := hm
  rw [hs] at hs'
  rw [ho] at ho'
  cases hs'
  cases ho'
  exact ⟨r, t', e, hr, hwrite, he⟩

/-- once the source and the options are read, only how the files are written and told of is open -/
theorem mistold_iff (out : Path) {r : Artifacts} (hs : t.text file = .ok source)
    (ho : t.options h.config file config = .ok o) (hr : (compileSource o (some file.text) source).1 = .ok r) :
    Mistold t h file out config ↔
      ∃ t' e, (writeOutput Tree.disk out file.stem r).run t = (.ok (), t') ∧
        (shownTexts h.out (successTexts file out)).2 = some e := by
  constructor
  · intro hm
    obtain ⟨r', t', e, hr', hwrite, he⟩ := hm.exists_written hs ho
    rw [hr] at hr'
    cases hr'
    exact ⟨t', e, hwrite, he⟩
  · rintro ⟨t', e, hwrite, he⟩
    exact ⟨source, o, r, t', e, hs, ho, hr, hwrite, he⟩

theorem reports_runCompile {w : Manner} {out : Path} (htags : w.host.err.ShowsTags)
    (hnul : ∀ path, config = some path → path.hasNul = false) :
    Reports (Unreported t w.host.config file config ∨ Mistold t w.host file out config)
      ((runCompile Tree.disk w (some file) out config).run t).1 := by
  unfold runCompile
  have hread : Mistold t w.host file out config →
      ∃ source o, t.text file = .ok source ∧ t.options w.host.config file config = .ok o := by
    rintro ⟨source, o, -, -, -, hs, ho, -⟩
    exact ⟨source, o, hs, ho⟩
  refine reports_withSource hnul hread fun source o hs ho => ?_
  cases hresult : (compileSource o (some file.text) source).1 with
  | error f =>
    have hno : ¬ Mistold t w.host file out config := by
      intro h
      obtain ⟨r, -, -, hr, -⟩ := h.exists_written hs ho
      rw [hresult] at hr
      cases hr
    simp only [hresult]
    exact ((reports_failureOutcome hresult w "Compilation failed").after _).congr (or_iff_left hno).symm
  | ok r =>
    have hno := not_overlong_of_compileSource hresult
    -- the warnings are shown, so only what is said after the files are written can fail
    have hwarned := shownTexts_warnings htags (not_mem_warnings hresult)
    have hmistold := mistold_iff out hs ho hresult
    simp only [hresult, hwarned]
    cases hwrite : (writeOutput Tree.disk out file.stem r).run t with
    | mk written t' =>
      rw [Tree.run_bind hwrite]
      cases written with
      | error e =>
        refine reports_reported (fun h => line_ne_empty _ _ (String.append_eq_empty_iff.1 h).2) (not_or.2 ⟨hno, ?_⟩)
        rw [hmistold, hwrite]
        rintro ⟨t'', e', h, -⟩
        cases h
      | ok u =>
        cases hshown : shownTexts w.host.out (successTexts file out) with
        | mk shown fault =>
          cases fault with
          | some e =>
            exact reports_of_escaped rfl (Or.inr (hmistold.2 ⟨t', e, hwrite, congrArg Prod.snd hshown⟩))
          | none =>
            refine reports_of_success rfl rfl (not_or.2 ⟨hno, ?_⟩)
            rw [hmistold, hshown]
            rintro ⟨t'', e, -, h⟩
            cases h

end

/-! ## Command lines -/

theorem hasNul_of_pathArgument {s : String} {p : Path} (h : pathArgument s = some p) : p.hasNul = false := by
  unfold pathArgument at h
  dsimp only at h
  split_ifs at h with hnul
  cases h
  exact Bool.eq_false_iff.2 hnul

theorem hasNul_of_pathOrNone {s : Option String} {config : Option Path} (h : pathOrNone s = some config) {path : Path}
    (hpath : config = some path) : path.hasNul = false := by
  cases s with
  | none =>
    cases h
    cases hpath
  | some s =>
    obtain ⟨p, hp, rfl⟩ := Option.map_eq_some_iff.1 h
    cases hpath
    exact hasNul_of_pathArgument hp

/-- a command that a command line asks for has its arguments from it -/
theorem exists_commandOf {args : List String} {verbose : Bool} {c : Command} (h : requestOf args = .run verbose c) :
    ∃ name settings others, commandOf name settings others = some c := by
  unfold requestOf at h
  split at h
  · cases h
  · split_ifs at h
    split at h
    · cases h
    · split at h
      · cases h
      · split at h
        · cases h
        · split_ifs at h
          split at h
          · next c hc =>
            cases h
            exact ⟨_, _, _, hc⟩
          · cases h

def Command.config? : Command → Option Path
  | .compile _ _ config => config
  | .parse _ _ config => config
  | _ => none

theorem hasNul_of_requestOf {args : List String} {verbose : Bool} {c : Command} (h : requestOf args = .run verbose c)
    {path : Path} (hpath : c.config? = some path) : path.hasNul = false := by
  obtain ⟨name, settings, others, hc⟩ := exists_commandOf h
  unfold commandOf at hc
  -- in the order of the commands; the first two have a configuration file
  split at hc
  · obtain ⟨file, -, hc⟩ := Option.bind_eq_some_iff.1 hc
    obtain ⟨out, -, hc⟩ := Option.bind_eq_some_iff.1 hc
    obtain ⟨config, hconfig, hc⟩ := Option.bind_eq_some_iff.1 hc
    cases hc
    exact hasNul_of_pathOrNone hconfig hpath
  · obtain ⟨file, -, hc⟩ := Option.bind_eq_some_iff.1 hc
    obtain ⟨config, hconfig, hc⟩ := Option.bind_eq_some_iff.1 hc
    cases hc
    exact hasNul_of_pathOrNone hconfig hpath
  · split_ifs at hc
    obtain ⟨n, -, rfl⟩ := Option.map_eq_some_iff.1 hc
    cases hpath
  · split_ifs at hc
    cases hc
    cases hpath
  · cases hc

theorem run_parse {args : List String} {verbose : Bool} {file : Path} {format : String} {config : Option Path}
    (hrequest : requestOf args = .run verbose (.parse (some file) format config)) (h : Host) :
    run Tree.disk h args = runParse Tree.disk (mannerOf h verbose) (some file) format config := by
  unfold run
  rw [hrequest]
  rfl

/-- **Bad input is reported**, with few exceptions. A command line that asks to compile or to parse a source ends well, or
with one and a message, unless an error escapes, and that is exactly if the source is not UTF-8, the options are untold or a
default in the source has too many digits, or, when all is compiled and written, if a path makes a bad tag. A file gives
options or a message exactly if it is UTF-8 and its reader does not give it up, over an integer or for want of room. It does
so only if too many digits stand together in the document, or at brackets inside which there is no room; and it does give up
every document of one value that is a number of too many digits, or arrays within arrays for which there is no room. -/
theorem bad_input_reporting (t : Tree) (h : Host) (hout : h.out.ShowsTags) (herr : h.err.ShowsTags) (args : List String)
    (verbose : Bool) (file : Path) (config : Option Path) :
    let outcome := ((run Tree.disk h args).run t).1
    let room := h.config.room
    (∀ out, requestOf args = .run verbose (.compile (some file) out config) →
        Reports (Unreported t h.config file config ∨ Mistold t h file out config) outcome ∧
          (Mistold t h file out config → '[' ∈ file.text.toList ∨ '[' ∈ out.text.toList)) ∧
      (∀ format, requestOf args = .run verbose (.parse (some file) format config) →
        Reports (format ∈ formats ∧ Unreported t h.config file config) outcome) ∧
      (∀ path b, t.read path = .ok b →
        ((∃ o, t.loaded h.config path = .ok o) ∨
            (∃ f message, t.loaded h.config path = .error f ∧ f.message? path = some message) ↔
          ¬ Config.Unusable room b)) ∧
      (∀ s, Toml.parse room s = .error .hugeInteger → Toml.HasOverlong s.toList) ∧
      (∀ s, Toml.parse room s = .error .tooDeep → Toml.Cramped room [] (Toml.joinLineEnds s.toList)) ∧
      (∀ c ds, (∀ d ∈ c :: ds, d.isDigit = true) → c ≠ '0' → Number.digitLimit < (c :: ds).length →
        Config.Unusable room (Toml.assigned (c :: ds)).toUTF8) ∧
      ∀ n, 0 < n → room (List.replicate n .array) (List.replicate n ']') = false →
        Config.Unusable room (Toml.assigned (Toml.nested n)).toUTF8 := by
  intro outcome room
  refine ⟨fun out hrequest => ⟨?_, fun hm => hm.bracket_mem hout⟩, fun format hrequest => ?_, fun path b hread => ?_,
    fun s hs => Toml.overlong_of_parse hs, fun s hs => Toml.cramped_of_parse hs, fun c ds hds hzero hlong => ?_,
    fun n hn hroom => ?_⟩
  · unfold outcome
    rw [run_compile hrequest]
    exact reports_runCompile (w := mannerOf h verbose) herr fun path hpath => hasNul_of_requestOf hrequest hpath
  · unfold outcome
    rw [run_parse hrequest]
    exact reports_runParse (w := mannerOf h verbose) fun path hpath => hasNul_of_requestOf hrequest hpath
  · rw [Tree.loaded_of_read hread, ← Config.told_ofBytes_iff h.config b path]
    exact Config.told_mapError_iff.symm
  · rw [Config.unusable_toUTF8_iff]
    exact Or.inl (Toml.parse_digits hds room hzero hlong)
  · rw [Config.unusable_toUTF8_iff]
    exact Or.inr (Toml.parse_nested hn hroom)

/-- a disk with one file, of one byte that starts no character -/
def oneByte (name : String) : Tree := ⟨[([name], .file ⟨#[0xFF]⟩)]⟩

theorem not_isValidUTF8_byte : ¬ ByteArray.IsValidUTF8 ⟨#[0xFF]⟩ := by decide +kernel

theorem requestOf_parse_app : requestOf ["parse", "app.sweb"] =
    .run false (.parse (some ⟨"", ["app.sweb"]⟩) "text" none) := by rfl

theorem bad_input_reporting_byte :
    (requestOf ["compile", "app.sweb", "--out", "out"] =
        .run false (.compile (some ⟨"", ["app.sweb"]⟩) ⟨"", ["out"]⟩ none) ∧
      ((run Tree.disk (.piped 300) ["compile", "app.sweb", "--out", "out"]).run (oneByte "app.sweb")).1.escaped ≠ none) ∧
      (requestOf ["parse", "app.sweb"] = .run false (.parse (some ⟨"", ["app.sweb"]⟩) "text" none) ∧
        ((run Tree.disk (.piped 300) ["parse", "app.sweb"]).run (oneByte "app.sweb")).1.escaped ≠ none) ∧
      ((oneByte "sweb.toml").read ⟨"", ["sweb.toml"]⟩ = .ok ⟨#[0xFF]⟩ ∧
        ¬ ∃ o, (oneByte "sweb.toml").loaded (Host.piped 300).config ⟨"", ["sweb.toml"]⟩ = .ok o) ∧
      Config.Unusable (Host.piped 300).config.room (Toml.assigned (Toml.nested 301)).toUTF8 := by
  have hcompile : requestOf ["compile", "app.sweb", "--out", "out"] =
      .run false (.compile (some ⟨"", ["app.sweb"]⟩) ⟨"", ["out"]⟩ none) :=
    requestOf_compile_out (by decide) (by decide) (by decide)
  have hcause : Unreported (oneByte "app.sweb") (Host.piped 300).config ⟨"", ["app.sweb"]⟩ none :=
    .source rfl not_isValidUTF8_byte
  have hreporting (t : Tree) := bad_input_reporting t (.piped 300) (showsTags_piped _) (showsTags_piped _)
  refine ⟨⟨hcompile, ?_⟩, ⟨requestOf_parse_app, ?_⟩, ⟨rfl, ?_⟩, ?_⟩
  · obtain ⟨hreports, -⟩ := (hreporting (oneByte "app.sweb") _ _ _ _).1 _ hcompile
    exact hreports.escapes.2 (Or.inl hcause)
  · have hreports := (hreporting (oneByte "app.sweb") _ _ _ _).2.1 _ requestOf_parse_app
    exact hreports.escapes.2 ⟨by decide, hcause⟩
  · have htold := (hreporting (oneByte "sweb.toml") [] false ⟨"", []⟩ none).2.2.1 ⟨"", ["sweb.toml"]⟩ _ rfl
    exact fun ho => htold.1 (Or.inl ho) (Or.inl not_isValidUTF8_byte)
  · refine (hreporting (oneByte "sweb.toml") [] false ⟨"", []⟩ none).2.2.2.2.2.2 301 (by decide) ?_
    rw [Host.room_piped, List.length_replicate]
    rfl

/-- nothing is said of a source that is not UTF-8, and the error escapes -/
theorem undecodable_source_escapes :
    ∃ outcome, (run Tree.disk (.piped 300) ["parse", "app.sweb"]).run (oneByte "app.sweb") = (outcome, oneByte "app.sweb") ∧
      outcome.status = 1 ∧ outcome.stderr = "" ∧ outcome.escaped = some .notText := by
  have htext : (oneByte "app.sweb").text ⟨"", ["app.sweb"]⟩ = .error .notText := by
    have hvalid : String.fromUTF8? ⟨#[0xFF]⟩ = none := dif_neg not_isValidUTF8_byte
    rw [@Tree.text_of_read (oneByte "app.sweb") ⟨"", ["app.sweb"]⟩ ⟨#[0xFF]⟩ rfl, textOfBytes, Text.ofFile?, hvalid]
    rfl
  refine ⟨.escape .notText, ?_, rfl, rfl, rfl⟩
  rw [run_parse requestOf_parse_app]
  unfold runParse
  rw [if_neg (by decide)]
  exact run_withSource_notText htext _ _

end Console

end Pagewright
