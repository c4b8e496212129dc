/-
What a compilation comes to. A source that gives no artifacts is told where it is wrong: no token starts at a place, a
token does not fit, or a name refers to nothing. There is one exception, a default of too many digits, which stops a
compilation without a place; `compileSource_outcome` says exactly when.

A compilation is reading and then making artifacts, and reading is tokens and then the grammar; what it comes to is put
together from its stages here (`readApp_result`, `compileSource_result`).
-/
import Pagewright.Proofs.App.Names
import Pagewright.Proofs.Grammar.Declared
import Pagewright.Proofs.Token.Concatenation

namespace Pagewright

open Pagewright.Grammar

/-! ## Stages -/

theorem mapError_eq_ok {ε ε' α : Type} {x : Except ε α} {f : ε → ε'} {a : α} : x.mapError f = .ok a ↔ x = .ok a := by
  cases x <;> simp [Except.mapError]

section

variable (o : Options) (file : Option String) {source : String}

theorem readApp_of_lexError {e : LexError} (h : tokenize source = .error e) :
    (readApp o file source).1 = .error (.lex e) := by
  simp only [readApp, readTokens, h]

theorem readApp_of_tokens {ts : List Token} (h : tokenize source = .ok ts) :
    (readApp o file source).1 = (app o (Session.start ts)).1.mapError Failure.grammar := by
  simp only [readApp, readTokens, h]
  rcases app o (Session.start ts) with ⟨_ | a, s⟩ <;> rfl

theorem compileSource_of_failure {f : Failure} (h : (readApp o file source).1 = .error f) :
    (compileSource o file source).1 = .error f := by
  unfold compileSource
  rcases hread : readApp o file source with ⟨r, events⟩
  obtain rfl : r = .error f := by rw [← h, hread]
  rfl

theorem compileSource_of_app {a : App} (h : (readApp o file source).1 = .ok a) :
    (compileSource o file source).1 = (compileApp o a).1.mapError Failure.generation := by
  unfold compileSource
  rcases hread : readApp o file source with ⟨r, events⟩
  obtain rfl : r = .ok a := by rw [← h, hread]
  dsimp only
  rcases compileApp o a with ⟨_ | r, more⟩ <;> rfl

/-- a compilation stops at the lexer, at the grammar, or comes to the generators -/
theorem compileSource_cases (source : String) :
    (∃ e, tokenize source = .error e ∧ (compileSource o file source).1 = .error (.lex e)) ∨
      (∃ ts f, tokenize source = .ok ts ∧ (app o (Session.start ts)).1 = .error f ∧
        (compileSource o file source).1 = .error (.grammar f)) ∨
      ∃ ts a, tokenize source = .ok ts ∧ (app o (Session.start ts)).1 = .ok a ∧
        (compileSource o file source).1 = (compileApp o a).1.mapError Failure.generation := by
  cases htok : tokenize source with
  | error e => exact Or.inl ⟨e, rfl, compileSource_of_failure o file (readApp_of_lexError o file htok)⟩
  | ok ts =>
    have hread := readApp_of_tokens o file htok
    cases happ : (app o (Session.start ts)).1 with
    | error f =>
      rw [happ] at hread
      exact Or.inr (Or.inl ⟨ts, f, rfl, happ, compileSource_of_failure o file hread⟩)
    | ok a =>
      rw [happ] at hread
      exact Or.inr (Or.inr ⟨ts, a, rfl, happ, compileSource_of_app o file hread⟩)

theorem readApp_eq_ok_iff (a : App) :
    (readApp o file source).1 = .ok a ↔ ∃ ts, tokenize source = .ok ts ∧ (app o (Session.start ts)).1 = .ok a := by
  cases htok : tokenize source with
  | error e => simp [readApp_of_lexError o file htok]
  | ok ts =>
    rw [readApp_of_tokens o file htok, mapError_eq_ok]
    simp

theorem compileSource_eq_ok_iff (r : Artifacts) :
    (compileSource o file source).1 = .ok r ↔ ∃ a, (readApp o file source).1 = .ok a ∧ (compileApp o a).1 = .ok r := by
  cases hread : (readApp o file source).1 with
  | error f => simp [compileSource_of_failure o file hread]
  | ok a =>
    rw [compileSource_of_app o file hread, mapError_eq_ok]
    simp

end

/-! ## Outcomes -/

/-- the failures that say what is wrong with a source, and where -/
inductive Failure.IsDiagnostic : Failure → Prop
  | lex (e : LexError) : IsDiagnostic (.lex e)
  | mismatch (e : ParseError) : IsDiagnostic (.grammar (.mismatch e))
  | reference (r : UnknownReference) : IsDiagnostic (.generation (.reference r))

/-- before the end of the source stand declarations and then a model up to one of its defaults, all as they should be,
and the default is an integer of more than 4300 digits -/
def HasOverlongDefault (o : Options) (source : String) : Prop :=
  ∃ body rest sk, tokenize source = .ok (body ++ rest) ∧ rest ≠ [] ∧ overlongApp o body sk ()

/-- tokens before others are none of them the end of the source -/
theorem Grammar.Ended.inside {ts us : List Token} (h : Ended (ts ++ us)) (hus : us ≠ []) : ∀ t ∈ ts, t.kind ≠ .finish := by
  intro t ht
  refine h.2 t ?_
  rw [List.dropLast_append_of_ne_nil hus]
  exact List.mem_append_left _ ht

/-- on tokens as the lexer makes them, reading stops at a numeral exactly after the tokens that lead to an overlong one -/
theorem app_eq_numeral_iff (o : Options) {ts : List Token} (hts : Lexed ts) :
    (app o (Session.start ts)).1 = .error .numeral ↔
      ∃ body rest sk, ts = body ++ rest ∧ rest ≠ [] ∧ overlongApp o body sk () := by
  have hiff : ∀ s', app o (Session.start ts) = (.error .numeral, s') ↔
      ∃ body sk, overlongApp o body sk () ∧ Moves (Session.start ts) body sk s' := fun _ => (fails_app o).overlong hts
  constructor
  · intro h
    obtain ⟨body, sk, hrule, hm⟩ := (hiff _).1 (Prod.ext h rfl)
    exact ⟨body, _, sk, hm.ahead, (hm.ended hts.1).ne_nil, hrule⟩
  · intro h
    obtain ⟨body, rest, sk, rfl, hrest, hrule⟩ := h
    have hm : Moves (Session.start (body ++ rest)) body sk
        ⟨rest, (body ++ rest).getLast?, body.length, sk.map .skipped⟩ :=
      ⟨rfl, rfl, by simp [Session.start], by simp [Session.start], hts.1.inside hrest⟩
    rw [(hiff _).2 ⟨body, sk, hrule, hm⟩]

theorem compileSource_eq_numeral_iff (o : Options) (file : Option String) (source : String) :
    (compileSource o file source).1 = .error (.grammar .numeral) ↔ HasOverlongDefault o source := by
  have hnumeral : ∀ ts, tokenize source = .ok ts →
      (HasOverlongDefault o source ↔ (app o (Session.start ts)).1 = .error .numeral) := by
    intro ts htok
    rw [app_eq_numeral_iff o (ended_shaped_of_tokenize htok)]
    simp [HasOverlongDefault, htok]
  rcases compileSource_cases o file source with ⟨e, htok, hres⟩ | ⟨ts, f, htok, happ, hres⟩ | ⟨ts, a, htok, happ, hres⟩
  · rw [hres]
    simp [HasOverlongDefault, htok]
  · rw [hres, hnumeral ts htok, happ]
    simp
  · rw [hres, hnumeral ts htok, happ]
    cases (compileApp o a).1 <;> simp [Except.mapError]

/-- the default of a token has no more digits than the token -/
theorem isWritable_of_isLiteral {t : Token} {l : Literal} (h : IsLiteral t l) (ht : t.Shaped) :
    l.toValue.isWritable = true := by
  cases h with
  | integer hk hpoint hlimit =>
    have hnumeral := ht.2 hk
    obtain ⟨c, r, hcons, -⟩ := hnumeral.exists_cons
    have hlength := Number.length_toDigits_digitsValue (by simp [hcons]) (hnumeral.digits hpoint)
    exact decide_eq_true (hlength.trans hlimit)
  | _ => rfl

/-- the defaults of what was read can be written -/
theorem isWritable_of_app {o : Options} {ts : List Token} {a : App} (hts : Lexed ts)
    (h : (app o (Session.start ts)).1 = .ok a) : a.isWritable = true := by
  refine List.all_eq_true.2 fun m hm => List.all_eq_true.2 fun f hf => ?_
  obtain ⟨us, hus, hdecl⟩ := (declared_of_app hts h hts.2).models m (App.mem_models_of_mem_distinctModels hm)
  cases hl : f.default with
  | none => simp [Field.isWritable, hl]
  | some l =>
    obtain ⟨t, ht, hliteral⟩ := hdecl.exists_isLiteral hf hl
    simpa [Field.isWritable, hl] using isWritable_of_isLiteral hliteral (hus t ht)

/-- any other failure is a diagnostic -/
theorem diagnostic_of_compileSource {o : Options} {file : Option String} {source : String} {f : Failure}
    (h : (compileSource o file source).1 = .error f) (hf : f ≠ .grammar .numeral) : f.IsDiagnostic := by
  rcases compileSource_cases o file source with ⟨e, -, hres⟩ | ⟨ts, g, htok, happ, hres⟩ | ⟨ts, a, htok, happ, hres⟩
  · rw [hres] at h
    cases h
    exact .lex e
  · rw [hres] at h
    cases h
    rcases (fails_app o).expected (s := Session.start ts) (ended_shaped_of_tokenize htok) (Prod.ext happ rfl) with
      ⟨e, rfl⟩ | rfl
    · exact .mismatch e
    · exact absurd rfl hf
  · rw [hres] at h
    cases hr : (compileApp o a).1 with
    | error e =>
      rw [hr] at h
      cases h
      have hw := isWritable_of_app (ended_shaped_of_tokenize htok) happ
      rw [compileApp_eq_error, a.fault?_generate_of_isWritable o hw] at hr
      obtain ⟨r, -, rfl⟩ := Option.map_eq_some_iff.1 hr
      exact .reference r
    | ok r =>
      rw [hr] at h
      cases h

/-- **Outcomes of a compilation.** A source gives artifacts or a diagnostic, unless the compilation fails at the conversion
of an integer. It does so exactly when a default is an integer of more than 4300 digits and the source is right up to it,
whatever the file and the rest of the source. -/
theorem compileSource_outcome (o : Options) (file : Option String) (source : String) :
    ((∃ r, (compileSource o file source).1 = .ok r) ∨
        (∃ f, f.IsDiagnostic ∧ (compileSource o file source).1 = .error f) ∨
          (compileSource o file source).1 = .error (.grammar .numeral)) ∧
      ((compileSource o file source).1 = .error (.grammar .numeral) ↔ HasOverlongDefault o source) := by
  refine ⟨?_, compileSource_eq_numeral_iff o file source⟩
  cases hresult : (compileSource o file source).1 with
  | ok r => exact Or.inl ⟨r, rfl⟩
  | error f =>
    by_cases hf : f = .grammar .numeral
    · exact Or.inr (Or.inr (by rw [hf]))
    · exact Or.inr (Or.inl ⟨f, diagnostic_of_compileSource hresult hf, rfl⟩)

/-! ## A default that is refused -/

/-- a model with one field whose default is written with `n` nines on a line of their own -/
def ninesSource (n : Nat) : String :=
  "model M \x7b field x: number default =" ++ "\n" ++ String.ofList (List.replicate n '9') ++ "\n" ++ "; \x7d"

theorem isNumeral_nines {n : Nat} (hn : 0 < n) : Number.IsNumeral (List.replicate n '9') := by
  refine ⟨?_, ?_, ?_⟩
  · cases n with
    | zero => omega
    | succ n => simp [List.replicate_succ]
  · intro c hc
    rw [List.eq_of_mem_replicate hc]
    decide
  · simp [List.count_replicate]

/-- a line of digits has one token -/
theorem tokenize_nines {n : Nat} (hn : 0 < n) :
    tokenize (String.ofList (List.replicate n '9')) =
      .ok [⟨.number, String.ofList (List.replicate n '9'), 1, 1⟩, ⟨.finish, "", 1, n + 1⟩] := by
  have hlexeme : Lexer.IsLexeme (List.replicate n '9') [] .number (List.replicate n '9') :=
    .number (isNumeral_nines hn) (by simp [Lexer.Longest])
  have hline : Cursor.lineOf (List.replicate n '9') = 1 := by simp [Cursor.lineOf, List.count_replicate]
  have hcolumn : Cursor.columnOf (List.replicate n '9') = n + 1 := by simp [Cursor.columnOf, Nat.add_comm]
  have hd : Lexer.Decomposes [] (List.replicate n '9' ++ []) [([], List.replicate n '9')] [] _ :=
    .token .nil hlexeme (.finish .nil)
  have hstart : Cursor.lineOf [] = 1 ∧ Cursor.columnOf [] = 1 := ⟨rfl, rfl⟩
  apply tokenize_of_decomposes
  simpa [hline, hcolumn, hstart] using hd

def fieldStart : List Token :=
  [⟨.model, "model", 1, 1⟩, ⟨.identifier, "M", 1, 7⟩, ⟨.leftBrace, "\x7b", 1, 9⟩, ⟨.field, "field", 1, 11⟩,
    ⟨.identifier, "x", 1, 17⟩, ⟨.colon, ":", 1, 18⟩, ⟨.numberType, "number", 1, 20⟩, ⟨.identifier, "default", 1, 27⟩,
    ⟨.equals, "=", 1, 35⟩]

theorem overlongApp_fieldStart (o : Options) {t : Token} (ht : IsOverlong t) : overlongApp o (fieldStart ++ [t]) [] () := by
  have hdefault : overlongDefault [⟨.identifier, "default", 1, 27⟩, ⟨.equals, "=", 1, 35⟩, t] [] () := by
    simp [overlongDefault, overlongLiteral, IsWord, ht]
  have hfield : overlongField o (fieldStart.drop 3 ++ [t]) [] () := by
    simp only [overlongField, Rule.token_bind_iff, Rule.given_bind_iff]
    refine ⟨_, _, rfl, rfl, _, _, rfl, rfl, _, _, rfl, rfl, _, _, rfl, rfl, fun _ => by decide, ?_⟩
    exact ⟨[], [], _, [], [], rfl, rfl, .nil, hdefault⟩
  have hmodel : overlongModel o (fieldStart ++ [t]) [] () := by
    simp only [overlongModel, Rule.token_bind_iff]
    refine ⟨_, _, rfl, rfl, _, _, rfl, rfl, _, _, rfl, rfl, ?_⟩
    exact ⟨[], [], _, [], [], rfl, rfl, .nil, hfield⟩
  exact ⟨[], [], _, [], [], rfl, rfl, .nil, hmodel⟩

theorem hasOverlongDefault_nines (o : Options) {n : Nat} (hn : 4300 < n) : HasOverlongDefault o (ninesSource n) := by
  have hfirst : tokenize "model M \x7b field x: number default =" = .ok (fieldStart ++ [⟨.finish, "", 1, 36⟩]) := by
    decide +kernel
  have hlast : tokenize "; \x7d" = .ok [⟨.semicolon, ";", 1, 1⟩, ⟨.rightBrace, "\x7d", 1, 3⟩, ⟨.finish, "", 1, 4⟩] := by
    decide +kernel
  have hsecond : tokenize ("model M \x7b field x: number default =" ++ "\n" ++ String.ofList (List.replicate n '9')) =
      .ok (fieldStart ++ [⟨.number, String.ofList (List.replicate n '9'), 2, 1⟩] ++ [⟨.finish, "", 2, n + 1⟩]) := by
    rw [tokenize_append_ok hfirst (tokenize_nines (by omega : 0 < n)), List.dropLast_concat]
    rfl
  have hthird := tokenize_append_ok hsecond hlast
  rw [List.dropLast_concat] at hthird
  refine ⟨_, _, [], hthird, List.cons_ne_nil _ _, overlongApp_fieldStart o ?_⟩
  exact ⟨rfl, by simp, by simpa using hn⟩

/-- a model as it should be, and a default of 4301 nines, is no source of artifacts and gets no diagnostic -/
theorem compileSource_nines :
    (compileSource Options.standard none (ninesSource 4301)).1 = .error (.grammar .numeral) ∧
      ¬ Failure.IsDiagnostic (.grammar .numeral) := by
  refine ⟨(compileSource_eq_numeral_iff _ _ _).2 (hasOverlongDefault_nines _ (by omega)), ?_⟩
  intro h
  cases h

end Pagewright
