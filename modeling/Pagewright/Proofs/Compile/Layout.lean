/-
Layout is irrelevant. What is read from tokens, where reading stops and which tokens are skipped follow from the kinds and
the values of the tokens; lines and columns come up in messages only. So sources with the same lexemes compile alike,
whatever blanks, byte-order marks and comments stand between the lexemes (`layout_irrelevant`).

All layouts of the same words are compared with one of them, which has every token on the line that is its index. The lines
of the tokens skipped there are the indices of the tokens skipped in any layout.
-/
import Pagewright.Proofs.Compile.Outcome
import Pagewright.Proofs.Grammar.Correspondence
import Pagewright.Proofs.Grammar.Erasure

namespace Pagewright

open Pagewright.Grammar

/-- what a token is, wherever it stands -/
def Token.word (t : Token) : Kind × String := (t.kind, t.value)

def Grammar.Fault.withoutPlace : Fault → Fault
  | .mismatch e => .mismatch { e with line := 0, column := 0 }
  | f => f

/-- the failure, wherever it is -/
def Failure.withoutPlace : Failure → Failure
  | .lex e => .lex { e with line := 0, column := 0 }
  | .grammar f => .grammar f.withoutPlace
  | .generation e => .generation e

namespace Grammar

/-! ## Reading a layout -/

/-- tokens for some words, each on the line that is its index -/
def indexed (ws : List (Kind × String)) : List Token := ws.zipIdx.map fun p => ⟨p.1.1, p.1.2, p.2, 0⟩

/-- a token on the line that is its index, and the token of a layout at that index -/
def layout (us : List Token) : Correspondence where
  Pair t u := u.word = t.word ∧ us[t.line]? = some u
  kind_eq := fun h => congrArg Prod.fst h.1
  value_eq := fun h => congrArg Prod.snd h.1
  passed := 0
  noted := []

theorem layout_indexed (us : List Token) : List.Forall₂ (layout us).Pair (indexed (us.map Token.word)) us := by
  rw [List.forall₂_iff_get]
  constructor
  · simp [indexed]
  · intro i hi hi'
    simp [indexed, layout, Token.word]

/-- paired lists end in a pair -/
theorem getLast?_of_forall₂ {α β : Type} {R : α → β → Prop} {l : List α} {l' : List β} (h : List.Forall₂ R l l') :
    Option.Rel R l.getLast? l'.getLast? := by
  have hreverse := List.rel_reverse h
  rw [List.getLast?_eq_head?_reverse, List.getLast?_eq_head?_reverse]
  generalize l.reverse = r at hreverse ⊢
  generalize l'.reverse = r' at hreverse ⊢
  cases hreverse with
  | nil => exact .none
  | cons hr _ => exact .some hr

theorem layout_start (us : List Token) :
    (layout us).Sessions (Session.start (indexed (us.map Token.word))) (Session.start us) :=
  ⟨layout_indexed us, getLast?_of_forall₂ (layout_indexed us), rfl, [], rfl, .nil⟩

theorem withoutPlace_of_faults {us : List Token} {f f' : Fault} (h : (layout us).Faults f f') :
    f'.withoutPlace = f.withoutPlace := by
  cases h with
  | unexpected h x => simp [Fault.withoutPlace, mismatchAt, (layout us).kind_eq h]
  | unknownType h => simp [Fault.withoutPlace, typeMismatch, (layout us).kind_eq h, (layout us).value_eq h]
  | other hf => rfl

theorem skippedTokens_of_notes {us : List Token} {ns ns' : List Note} (h : List.Forall₂ (layout us).Notes ns ns') :
    (skippedTokens ns').map some = (skippedTokens ns).map fun t => us[t.line]? := by
  induction h with
  | nil => rfl
  | cons hn _ ih =>
    cases hn with
    | @skipped t u h => exact congrArg₂ List.cons h.2.symm ih
    | parsed a => exact ih

/-- **Reading a layout.** Any layout of some words is read as the one by indices is. -/
theorem app_layout (o : Options) (us : List Token) :
    let r := app o (Session.start (indexed (us.map Token.word)))
    (app o (Session.start us)).1.mapError Fault.withoutPlace = r.1.mapError Fault.withoutPlace ∧
      (app o (Session.start us)).2.position = r.2.position ∧
      (skippedTokens (app o (Session.start us)).2.notes).map some = (skippedTokens r.2.notes).map fun t => us[t.line]? := by
  have hout := Correspondence.parallel_app o _ _ (layout_start us)
  generalize app o (Session.start (indexed (us.map Token.word))) = x at hout ⊢
  generalize app o (Session.start us) = y at hout ⊢
  have hsessions : ∀ {s s' : Session}, (layout us).Sessions s s' → s'.position = s.position ∧
      (skippedTokens s'.notes).map some = (skippedTokens s.notes).map fun t => us[t.line]? := by
    intro s s' hs
    obtain ⟨ns, hns, hpairs⟩ := hs.notes
    refine ⟨by simpa [layout] using hs.position, ?_⟩
    rw [hns]
    exact skippedTokens_of_notes hpairs
  cases hout with
  | ok hv hs => exact ⟨by rw [hv], hsessions hs⟩
  | error hf hs => exact ⟨congrArg Except.error (withoutPlace_of_faults hf), hsessions hs⟩

end Grammar

/-! ## Compiling a layout -/

/-- sources whose tokens are the same words compile alike -/
theorem compileSource_layout (o : Options) (file file' : Option String) {source source' : String} {ts us : List Token}
    (h : tokenize source = .ok ts) (h' : tokenize source' = .ok us) (hwords : us.map Token.word = ts.map Token.word) :
    (compileSource o file' source').1.mapError Failure.withoutPlace =
      (compileSource o file source).1.mapError Failure.withoutPlace := by
  have happ : (app o (Session.start us)).1.mapError Fault.withoutPlace =
      (app o (Session.start ts)).1.mapError Fault.withoutPlace := by
    rw [(app_layout o us).1, (app_layout o ts).1, hwords]
  have hread := readApp_of_tokens o file h
  have hread' := readApp_of_tokens o file' h'
  cases ha : (app o (Session.start ts)).1 with
  | ok a =>
    rw [ha] at happ hread
    rw [mapError_eq_ok.1 happ] at hread'
    rw [compileSource_of_app o file hread, compileSource_of_app o file' hread']
  | error f =>
    cases ha' : (app o (Session.start us)).1 with
    | ok b =>
      rw [ha, ha'] at happ
      cases happ
    | error f' =>
      rw [ha, ha'] at happ
      rw [ha] at hread
      rw [ha'] at hread'
      rw [compileSource_of_failure o file hread, compileSource_of_failure o file' hread']
      exact congrArg (fun g => Except.error (Failure.grammar g)) (Except.error.inj happ)

namespace Lexer

/-- what a lexeme is written for does not depend on what follows -/
theorem IsLexeme.alone {l rest v : List Char} {k : Kind} (h : IsLexeme l rest k v) : IsLexeme l [] k v := by
  have hnothing : ∀ P : List Char → Prop, Longest P l [] := by
    intro P more tail heq _
    exact (List.append_eq_nil_iff.1 heq.symm).1
  cases h with
  | mark h => exact .mark h
  | word hw _ hk => exact .word hw (hnothing _) hk
  | number hn _ => exact .number hn (hnothing _)
  | text hbody => exact .text hbody

/-- texts with the same lexemes have tokens for the same words -/
theorem Decomposes.word_eq {before before' text text' last last' : List Char}
    {pieces pieces' : List (List Char × List Char)} {ts us : List Token} (h : Decomposes before text pieces last ts)
    (h' : Decomposes before' text' pieces' last' us) (hsame : pieces'.map Prod.snd = pieces.map Prod.snd) :
    us.map Token.word = ts.map Token.word := by
  induction h generalizing before' text' pieces' us with
  | finish hs =>
    cases h' with
    | finish => rfl
    | token => simp at hsame
  | token hs hl _ ih =>
    cases h' with
    | finish => simp at hsame
    | token hs' hl' h' =>
      obtain ⟨hhead, htail⟩ := List.cons.inj hsame
      dsimp only at hhead
      subst hhead
      obtain ⟨-, -, rfl, rfl⟩ := hl.alone.unique hl'.alone rfl
      rw [List.map_cons, List.map_cons, ih h' htail]
      rfl

end Lexer

/-- **Layout is irrelevant.** For any tokens there are indices such that every layout of them gives the same application or
the same fault at the same position, and skips the tokens at these indices. Sources whose tokens are the same words
compile to the same artifacts and warnings or fail alike, under any file names; and the tokens of sources with the same
lexemes are the same words, whatever separates the lexemes. -/
theorem layout_irrelevant (o : Options) :
    (∀ ts : List Token, ∃ indices : List Nat, ∀ us : List Token, us.map Token.word = ts.map Token.word →
      (app o (Session.start us)).1.mapError Fault.withoutPlace = (app o (Session.start ts)).1.mapError Fault.withoutPlace ∧
        (app o (Session.start us)).2.position = (app o (Session.start ts)).2.position ∧
        (skippedTokens (app o (Session.start us)).2.notes).map some = indices.map fun i => us[i]?) ∧
      (∀ file file' source source' ts us, tokenize source = .ok ts → tokenize source' = .ok us →
        us.map Token.word = ts.map Token.word →
          (compileSource o file' source').1.mapError Failure.withoutPlace =
            (compileSource o file source).1.mapError Failure.withoutPlace) ∧
      ∀ source source' pieces pieces' last last' ts us, Lexer.Decomposes [] source pieces last ts →
        Lexer.Decomposes [] source' pieces' last' us → pieces'.map Prod.snd = pieces.map Prod.snd →
          us.map Token.word = ts.map Token.word := by
  refine ⟨?_, ?_, ?_⟩
  · intro ts
    refine ⟨(skippedTokens (app o (Session.start (indexed (ts.map Token.word)))).2.notes).map Token.line, ?_⟩
    intro us hwords
    obtain ⟨hresult, hposition, hskipped⟩ := app_layout o us
    obtain ⟨hresult', hposition', -⟩ := app_layout o ts
    rw [hwords] at hresult hposition hskipped
    refine ⟨hresult.trans hresult'.symm, hposition.trans hposition'.symm, ?_⟩
    rw [hskipped, List.map_map]
    rfl
  · intro file file' source source' ts us h h' hwords
    exact compileSource_layout o file file' h h' hwords
  · intro source source' pieces pieces' last last' ts us h h' hsame
    exact h.word_eq h' hsame

/-- a stray word and a model on one line -/
def tightTokens : List Token :=
  [⟨.identifier, "a", 1, 1⟩, ⟨.model, "model", 1, 3⟩, ⟨.identifier, "M", 1, 9⟩, ⟨.leftBrace, "\x7b", 1, 10⟩,
    ⟨.rightBrace, "\x7d", 1, 11⟩, ⟨.finish, "", 1, 12⟩]

/-- the same over three lines, after a byte-order mark and with a comment -/
def looseTokens : List Token :=
  [⟨.identifier, "a", 1, 2⟩, ⟨.model, "model", 2, 2⟩, ⟨.identifier, "M", 2, 8⟩, ⟨.leftBrace, "\x7b", 2, 10⟩,
    ⟨.rightBrace, "\x7d", 3, 1⟩, ⟨.finish, "", 3, 2⟩]

/-- in two layouts of a stray word and a model, the skipped tokens are at the same indices, and the artifacts are the same -/
theorem layout_irrelevant_stray :
    (∃ indices : List Nat,
      (skippedTokens (app Options.standard (Session.start tightTokens)).2.notes).map some =
          indices.map (fun i => tightTokens[i]?) ∧
        (skippedTokens (app Options.standard (Session.start looseTokens)).2.notes).map some =
          indices.map fun i => looseTokens[i]?) ∧
      (compileSource Options.standard (some "loose") "\uFEFFa // b\n\tmodel M \x7b\n\x7d").1.mapError
          Failure.withoutPlace =
        (compileSource Options.standard none "a model M\x7b\x7d").1.mapError Failure.withoutPlace := by
  have hwords : looseTokens.map Token.word = tightTokens.map Token.word := by decide
  have htight : tokenize "a model M\x7b\x7d" = .ok tightTokens := by decide +kernel
  have hloose : tokenize "\uFEFFa // b\n\tmodel M \x7b\n\x7d" = .ok looseTokens := by decide +kernel
  obtain ⟨htokens, hsources, -⟩ := layout_irrelevant Options.standard
  obtain ⟨indices, hskipped⟩ := htokens tightTokens
  exact ⟨⟨indices, (hskipped tightTokens rfl).2.2, (hskipped looseTokens hwords).2.2⟩,
    hsources none (some "loose") _ _ tightTokens looseTokens htight hloose hwords⟩

end Pagewright
